import ChainReplica.Batch
import ChainReplica.Subscriber.Basic

/-!
# Applying a batch

`update` takes the runs of a batch one by one. The logs of a run are folded onto
the newest checkpoint strictly older than its block. A changed snapshot becomes
the checkpoint of the block, and the current snapshot if the block is newer than
the pointer; a block delivered again is therefore folded onto the same base
again.

A subscriber without snapshot builds one from scratch, at the block of the first
run or else of the newest header. It asks once: after a failure the rest of the
batch is passed over. A master that ends without a snapshot asks for a job that
builds one later, at the newest block it has seen.
-/

namespace ChainReplica

/-- What is carried from run to run. -/
structure Progress (S : Type) where
  subscriber : Subscriber S
  effects : List (Effect S)
  /-- Why a snapshot from scratch could not be built. -/
  refusal : Option Failure
  /-- The newest block seen. -/
  newest : Nat

namespace Progress

variable {S : Type}

def start (s : Subscriber S) : Progress S := ⟨s, [], none, s.replica.pointer⟩

def put (p : Progress S) (snapshot : S) (block : Nat) : Progress S :=
  let (s, effects) := p.subscriber.put (some snapshot) block
  { p with subscriber := s, effects := p.effects ++ effects }

/-- Builds a snapshot from scratch, unless that has failed already. -/
def generate (source : Source S) (p : Progress S) (block : Nat) : Progress S :=
  if p.refusal.isSome then p
  else
    let asked := { p with effects := p.effects ++ [Effect.generate block] }
    match source block with
    | .ok fresh => asked.put fresh block
    | .error e => { asked with refusal := some e }

/-- Keeps a changed snapshot: on the path of every write if its block is newer
than the pointer, as a checkpoint only if it is not. -/
def keep (p : Progress S) (snapshot : S) (block : Nat) : Progress S :=
  if p.subscriber.replica.pointer < block then p.put snapshot block
  else
    let replica := p.subscriber.replica.checkpoint block snapshot
    { p with subscriber := { p.subscriber with replica := replica } }

/-- Takes one run. A failure of the venue ends the batch. -/
def step (source : Source S) (headers : Headers) (p : Progress S) (run : Run) :
    Progress S × Option Failure :=
  let p := { p with newest := max p.newest run.block }
  if !p.subscriber.replica.hasSnapshot then (p.generate source run.block, none)
  else match p.subscriber.replica.history.latestBefore run.block with
    | none => (p, none)
    | some (_, base) =>
      match p.subscriber.venue.fold base run.logs (headers.get? run.block) with
      | .error e => (p, some e)
      | .ok none => (p, none)
      | .ok (some next) => (p.keep next run.block, none)

/-- Takes the runs in order, up to a failure of the venue. -/
def replay (source : Source S) (headers : Headers) (p : Progress S) :
    List Run → Progress S × Option Failure
  | [] => (p, none)
  | run :: rest => match p.step source headers run with
    | (p, some e) => (p, some e)
    | (p, none) => replay source headers p rest

/-- Takes in the newest header: without a snapshot one is built there. -/
def cover (source : Source S) (headers : Headers) (p : Progress S) : Progress S :=
  match headers.last? with
  | none => p
  | some (block, _) =>
    let p := { p with newest := max p.newest block }
    if p.subscriber.replica.hasSnapshot then p else p.generate source block

/-- Whether a job has to build the missing snapshot. -/
def needsHealing (p : Progress S) : Bool :=
  !p.subscriber.replica.hasSnapshot && p.subscriber.settings.role == .master && 0 < p.newest

/-- After the last run: the snapshot is trusted again, and a missing one is
asked for. -/
def finish (p : Progress S) : Outcome S where
  subscriber := { p.subscriber with replica := p.subscriber.replica.validate }
  effects := p.effects ++ if p.needsHealing then [Effect.heal p.newest] else []
  result := match p.refusal with
    | some e => .error e
    | none => .ok ()

end Progress

namespace Subscriber

variable {S : Type}

/-- The failure of a batch that the strict policy rejects. -/
def rejection (id : Subscription) (found : List Violation) : Failure :=
  .plain .ordering (toString found.length ++ " violation(s) in batch for " ++ id.text ++ ": "
    ++ "; ".intercalate (found.map (·.text)))

def applyBatch (s : Subscriber S) (source : Source S) (logs : List Log) (headers : Headers) :
    Outcome S :=
  match (Progress.start s).replay source headers (runs logs) with
  | (p, some e) => ⟨p.subscriber, p.effects, .error e⟩
  | (p, none) => (p.cover source headers).finish

/-- Applies a batch, unless the subscriber sleeps or its policy rejects it. -/
def update (s : Subscriber S) (source : Source S) (logs : List Log) (headers : Headers) :
    Outcome S :=
  if s.replica.inactive then ⟨s, [], .ok ()⟩
  else
    let found := violations logs headers
    if s.settings.policy = .strict ∧ found ≠ [] then ⟨s, [], .error (rejection s.id found)⟩
    else s.applyBatch source logs headers

end Subscriber

end ChainReplica
