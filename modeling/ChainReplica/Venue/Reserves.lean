import ChainReplica.Venue
import ChainReplica.Node

/-!
# The reserves of a trading pair

Every trade of the pair ends with a `Sync` log that carries both reserves, so
the newest such log says all there is to say:

- folding a block keeps the reserves of its last `Sync` log, whatever they were
  before;
- a snapshot from scratch needs the newest `Sync` log up to a block, for which
  `scan` asks the node for chunks of blocks, from the newest backwards.

The data of a `Sync` log is two words below `2 ^ 112`. Reserves above a bound
are refused: no real pair comes near it.
-/

namespace ChainReplica

structure Reserves where
  reserve0 : Nat
  reserve1 : Nat
  deriving DecidableEq, Repr

namespace Reserves

def codec : Codec Reserves where
  write r := .record [("reserve0", Codec.worded.write r.reserve0),
    ("reserve1", Codec.worded.write r.reserve1)]
  read? l := (l.field₂? ("reserve0", Codec.worded.read?) ("reserve1", Codec.worded.read?)).map
    fun p => ⟨p.1, p.2⟩

/-! ## The data of a log -/

/-- The signature of the log. -/
def syncSignature : String := "Sync(uint112,uint112)"

/-- The first topic of the log: the Keccak-256 hash of its signature. -/
def syncTopic : Hash := 0x1c411e9a96e071241c2f21f7726b17ae89e3cab4c78be50e062b03a9fffbbad1

/-- The number that bytes make up, first byte most significant. -/
def word (bytes : List UInt8) : Nat := Numeral.value 256 (bytes.map (·.toNat))

def reserveLimit : Nat := 0x10000000000000000000000000000

/-- Both numbers of a `Sync` log. Its data is exactly two words of 32 bytes. -/
def decodeSync (log : Log) : Except Failure (Nat × Nat) :=
  let first := word (log.data.take 32)
  let second := word (log.data.drop 32)
  if log.topics.head? = some syncTopic ∧ log.data.length = 64 ∧ first < reserveLimit
      ∧ second < reserveLimit then
    .ok (first, second)
  else .error (.plain .decoding "Failed to decode Sync event")

/-- The greatest reserve that is believed. -/
def bound : Nat := 1000000000000000000000000000000

/-- The reserves, if they can be believed. -/
def ofPair (pair : Nat × Nat) : Except Failure Reserves :=
  if bound < pair.1 ∨ bound < pair.2 then
    .error (.plain .processing ("Reserves (" ++ toString pair.1 ++ ", " ++ toString pair.2
      ++ ") exceed sanity bound " ++ toString bound))
  else .ok ⟨pair.1, pair.2⟩

/-! ## The venue -/

/-- A readable `Sync` log of the pair replaces the reserves. -/
def rule (pair : Address) : LogRule Reserves := fun _ log _ =>
  if log.address = pair ∧ log.topics.head? = some syncTopic then
    match decodeSync log with
    | .ok event => (ofPair event).map some
    | .error _ => .ok none
  else .ok none

def venue (pair : Address) : Venue Reserves :=
  { Venue.ofRule [pair] (rule pair) codec with
    identifier := some (Venue.poolIdentifier "uniswap-v2" pair) }

/-! ## A snapshot from scratch -/

/-- Selects the `Sync` logs of a pair. -/
def syncFilter (pair : Address) (first last : Nat) : LogFilter := ⟨pair, syncTopic, first, last⟩

/-- Asks for the `Sync` logs of a pair in a range of blocks. -/
def fetchLogs {σ : Type} (node : Node σ) (pair : Address) (first last : Nat) (s : σ) :
    Except Failure (List Log) × σ :=
  match node.logs (syncFilter pair first last) s with
  | (some logs, s) => (.ok logs, s)
  | (none, s) => (.error (.because .node
      ("Failed to fetch Sync events for " ++ toString first ++ "..=" ++ toString last)
      Node.requestFailed), s)

def chunk : Nat := 1000

/-- The first block of the chunk that ends with `last`, not before the floor. -/
def chunkStart (floor last : Nat) : Nat := max (last - (chunk - 1)) floor

/-- The newest `Sync` log of the pair from `last` back to the floor decides.
`target` is the block that was asked for. -/
def scan {σ : Type} (node : Node σ) (pair : Address) (floor target last : Nat) (s : σ) :
    Except Failure Reserves × σ :=
  match fetchLogs node pair (chunkStart floor last) last s with
  | (.error e, s) =>
    (.error (.because .generation ("Reserve scan failed: " ++ e.text) (some e.text)), s)
  | (.ok logs, s) => match logs.getLast? with
    | some log => ((decodeSync log).bind ofPair, s)
    | none =>
      if chunkStart floor last ≤ floor then
        (.error (.plain .generation ("No Sync event for " ++ pair.checksumText ++ " in blocks "
          ++ toString floor ++ "..=" ++ toString target)), s)
      else scan node pair floor target (chunkStart floor last - 1) s
termination_by last
decreasing_by
  simp only [chunkStart, chunk] at *
  omega

/-- The snapshot at a block, from the logs at most `lookback` blocks before it. -/
def generate {σ : Type} (node : Node σ) (pair : Address) (lookback block : Nat) (s : σ) :
    Except Failure Reserves × σ :=
  scan node pair (block - lookback) block block s

end Reserves

end ChainReplica
