import ChainReplica.Node

/-!
# A node that serves a prepared chain

A `Script` says what a node answers: views of the chain, one after the other,
and the logs of the blocks. In a view the chain has a newest block, and from
some blocks on it is on a numbered fork. Chosen requests fail. The node keeps a
list of the requests it was sent.
-/

namespace ChainReplica

/-- The chain as it looks at one time. -/
structure View where
  latest : Nat
  /-- The first block of a fork, and the number of the fork. -/
  forks : List (Nat × Nat)
  /-- Blocks that the node has lost. -/
  missing : List Nat
  deriving DecidableEq, Repr

/-- The fork that a block is on: that of the last entry not after it. -/
def View.forkOf (v : View) (block : Nat) : Nat :=
  ((v.forks.filter fun f => f.1 ≤ block).getLast?.map (·.2)).getD 0

/-- The hash of a block on a fork: the number in 8 bytes, the fork in 24. -/
def View.hashOf (v : View) (block : Nat) : Hash :=
  BitVec.ofNat 256 (block * Nat.pow 256 24 + v.forkOf block)

/-- The header of a block. The first block has no parent. -/
def View.headerOf (v : View) (block : Nat) : Header where
  number := block
  hash := v.hashOf block
  parent := if block = 0 then 0 else v.hashOf (block - 1)
  timestamp := 12 * block

/-- A log, and the fork that its block has to be on. -/
structure ForkLog where
  log : Log
  fork : Nat

def View.shows (v : View) (l : ForkLog) : Bool :=
  l.log.block.any fun block => block ≤ v.latest && v.forkOf block == l.fork

def LogFilter.selects (f : LogFilter) (log : Log) : Bool :=
  log.address == f.address && log.topics.head? == some f.topic
    && log.block.any fun block => f.first ≤ block && block ≤ f.last

/-- What a node answers, and what it was asked. -/
structure Script where
  /-- The view that counts now. -/
  view : View
  /-- The views that follow, each with the next question for the newest block. -/
  upcoming : List View
  /-- How many views there were. -/
  entered : Nat
  logs : List ForkLog
  /-- The requests that fail, by the number of those before them. -/
  failing : List Nat
  /-- How many requests may have failed so far. -/
  asked : Nat
  /-- The requests and changes of view so far. -/
  requests : List String

namespace Script

def new (view : View) (upcoming : List View) (logs : List ForkLog) (failing : List Nat) : Script :=
  ⟨view, upcoming, 0, logs, failing, 0, []⟩

/-- Notes a request. Answers whether it fails. -/
def receive (s : Script) (request : String) : Bool × Script :=
  (s.failing.contains s.asked,
    { s with asked := s.asked + 1, requests := s.requests ++ [request] })

/-- Moves on to the next view, if there is one. -/
def moveOn (s : Script) : Script :=
  match s.upcoming with
  | [] => s
  | v :: rest => { s with
      view := v
      upcoming := rest
      entered := s.entered + 1
      requests := s.requests ++ ["view " ++ toString s.entered] }

def header (block : Nat) (s : Script) : HeaderReply × Script :=
  let (fails, s) := s.receive ("block " ++ toString block)
  let reply :=
    if fails then HeaderReply.failed
    else if s.view.latest < block || s.view.missing.contains block then .unknown
    else .found (s.view.headerOf block)
  (reply, s)

def select (f : LogFilter) (s : Script) : Option (List Log) × Script :=
  let (fails, s) := s.receive ("logs " ++ toString f.first ++ "-" ++ toString f.last)
  let shown := (s.logs.filter s.view.shows).map (·.log)
  (if fails then none else some (shown.filter f.selects), s)

def latest (s : Script) : Option Nat × Script :=
  let (fails, s) := s.receive "latest"
  (if fails then none else some s.view.latest, s)

/-- The node that answers by a script of one view. -/
def node : Node Script := ⟨latest, header, select⟩

/-- The node that moves on to the next view with every question for the newest
block, which is not noted and never fails. -/
def movingNode : Node Script where
  latest s := let s := s.moveOn; (some s.view.latest, s)
  header := header
  logs := select

end Script

end ChainReplica
