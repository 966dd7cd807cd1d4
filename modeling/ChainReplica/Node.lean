import ChainReplica.Chain.Basic
import ChainReplica.Failure
import ChainReplica.Json.Value

/-!
# Asking a node

A node answers three questions: the number of the newest block, the header of a
block, and the logs that a filter selects. Any of them may fail. The node has a
state of its own, which every request may change, so that two equal requests
need not have equal answers; nothing else is assumed of a node.

The functions of this module make one or several requests and word their
failures.
-/

namespace ChainReplica

/-- Selects the logs of a contract with a first topic in a range of blocks. -/
structure LogFilter where
  address : Address
  topic : Hash
  first : Nat
  last : Nat
  deriving DecidableEq

def LogFilter.json (f : LogFilter) : Json.Value :=
  .record [("fromBlock", .string (Numeral.writeWord f.first)),
    ("toBlock", .string (Numeral.writeWord f.last)),
    ("address", .string f.address.text),
    ("topics", .array [.string f.topic.text])]

/-- The answer to a question about one block. -/
inductive HeaderReply where
  | failed
  /-- The node does not know the block. -/
  | unknown
  | found (header : Header)

/-- A node with states of type `σ`. An answer of `none` is a failed request. -/
structure Node (σ : Type) where
  latest : σ → Option Nat × σ
  header : Nat → σ → HeaderReply × σ
  logs : LogFilter → σ → Option (List Log) × σ

namespace Node

variable {σ : Type}

/-- The reason given for a request that failed. -/
def requestFailed : Option String := some "request failed"

def unreachable : Node σ where
  latest s := (none, s)
  header _ s := (.failed, s)
  logs _ s := (none, s)

def fetchLatest (node : Node σ) (s : σ) : Except Failure Nat × σ :=
  match node.latest s with
  | (some n, s) => (.ok n, s)
  | (none, s) => (.error (.because .node "Failed to fetch latest block number" requestFailed), s)

def fetchHeader (node : Node σ) (block : Nat) (s : σ) : Except Failure Header × σ :=
  match node.header block s with
  | (.found h, s) => (.ok h, s)
  | (.unknown, s) => (.error (.plain .node ("Block " ++ toString block ++ " not found")), s)
  | (.failed, s) =>
    (.error (.because .node ("Failed to fetch block " ++ toString block) requestFailed), s)

/-- The headers of `count` blocks from `first` on. The first failure ends it. -/
def fetchRange (node : Node σ) (first : Nat) : Nat → σ → Except Failure (List Header) × σ
  | 0, s => (.ok [], s)
  | count + 1, s => match node.fetchHeader first s with
    | (.error e, s) => (.error e, s)
    | (.ok h, s) => match fetchRange node (first + 1) count s with
      | (.error e, s) => (.error e, s)
      | (.ok hs, s) => (.ok (h :: hs), s)

/-- The headers of the blocks from `first` to `last`, by the blocks asked for. -/
def fetchHeaders (node : Node σ) (first last : Nat) (s : σ) : Except Failure Headers × σ :=
  match node.fetchRange first (last + 1 - first) s with
  | (.error e, s) => (.error e, s)
  | (.ok hs, s) => (.ok (BlockMap.ofList ((List.range' first hs.length).zip hs)), s)

end Node

end ChainReplica
