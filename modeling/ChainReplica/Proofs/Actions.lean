import ChainReplica.Proofs.Ascending
import ChainReplica.Subscriber.Lifecycle

/-!
# Everything that can happen to a subscriber

An `Action` is one call of an operation of a subscriber, with what the outside
world answered to it. Nothing is assumed about the order of actions: a refresh
may end that nobody asked for, and a job may try to build a snapshot at any
block. A property that every action preserves therefore holds along every run
of a fleet.

`Subscriber.written` lists the snapshots that a run writes, with their blocks:
those that `put` puts in place, and those that are stored as checkpoints only.
Rollbacks and restarts write nothing, since the checkpoint that a rollback
returns to was written before.
-/

namespace ChainReplica

variable {S : Type}

/-- One call of an operation. -/
inductive Action (S : Type) where
  | establish (world : Surroundings S) (block : Nat) (start : Start S)
  | update (batch : Batch S)
  /-- A refresh ends with what the cache had. -/
  | absorb (found : Option (Record S))
  /-- A job tries to build the missing snapshot. -/
  | heal (source : Source S) (block : Nat)
  | put (snapshot : Option S) (block : Nat)
  | rollback (block : Nat)
  | restart (block : Nat)
  | invalidate
  | inactivate

namespace Subscriber

def act (s : Subscriber S) : Action S → Subscriber S
  | .establish world block start => (s.establish world block start).subscriber
  | .update b => (s.update b.source b.logs b.headers).subscriber
  | .absorb found => (s.absorb found).1
  | .heal source block => (s.heal source block).2.1
  | .put snapshot block => (s.put snapshot block).1
  | .rollback block => (s.rollback block).1
  | .restart block => (s.restart block).1
  | .invalidate => s.invalidate
  | .inactivate => s.inactivate

def perform (s : Subscriber S) : List (Action S) → Subscriber S
  | [] => s
  | a :: rest => (s.act a).perform rest

/-- Whoever is set up takes a snapshot or builds one, which is announced on a slave that
shares only. -/
theorem establish_cases {s : Subscriber S} {world : Surroundings S} {block : Nat}
    {motive : Outcome S → Prop}
    (adopted : ∀ x k baseline, motive (s.adopt world x k baseline))
    (built : ∀ announced, (announced = true → s.settings.sharesAs .slave = true) →
      motive (s.build world block announced))
    (start : Start S) : motive (s.establish world block start) := by
  cases start with
  | supplied x => exact adopted x block block
  | fresh => exact built false nofun
  | usual =>
      rw [establish]
      split
      · rename_i hslave
        cases world.published with
        | none => exact built true fun _ => hslave
        | some record => exact adopted record.snapshot record.block _
      · exact built false nofun

end Subscriber

/-! ## What an update writes -/

namespace Progress

/-- What building a snapshot from scratch writes. -/
def generated (source : Source S) (p : Progress S) (block : Nat) : List (Nat × S) :=
  if p.refusal.isSome then []
  else match source block with
    | .ok fresh => [(block, fresh)]
    | .error _ => []

def stepWrites (source : Source S) (headers : Headers) (p : Progress S) (run : Run) :
    List (Nat × S) :=
  if !p.subscriber.replica.hasSnapshot then p.generated source run.block
  else match p.subscriber.replica.history.latestBefore run.block with
    | none => []
    | some (_, base) =>
      match p.subscriber.venue.fold base run.logs (headers.get? run.block) with
      | .ok (some next) => [(run.block, next)]
      | _ => []

/-- What runs write up to a failure. -/
def replayWrites (source : Source S) (headers : Headers) (p : Progress S) :
    List Run → List (Nat × S)
  | [] => []
  | run :: rest => p.stepWrites source headers run ++
    match p.step source headers run with
    | (_, some _) => []
    | (q, none) => replayWrites source headers q rest

/-- What the newest header makes the subscriber write. -/
def coverWrites (source : Source S) (headers : Headers) (p : Progress S) : List (Nat × S) :=
  match headers.last? with
  | none => []
  | some (block, _) => if p.subscriber.replica.hasSnapshot then [] else p.generated source block

end Progress

namespace Subscriber

def updateWrites (s : Subscriber S) (b : Batch S) : List (Nat × S) :=
  if s.replica.inactive ∨ s.Rejects b.logs b.headers then []
  else (Progress.start s).replayWrites b.source b.headers (runs b.logs) ++
    match (Progress.start s).replay b.source b.headers (runs b.logs) with
    | (_, some _) => []
    | (p, none) => p.coverWrites b.source b.headers

/-! ## What an action writes -/

/-- What is written when a snapshot is put in place. -/
def putWrites (s : Subscriber S) (snapshot : S) (block : Nat) : List (Nat × S) :=
  if s.replica.inactive then [] else [(block, snapshot)]

def buildWrites (s : Subscriber S) (source : Source S) (block : Nat) : List (Nat × S) :=
  match source block with
  | .ok fresh => s.putWrites fresh block
  | .error _ => []

/-- What the search for a first snapshot writes. -/
def establishWrites (s : Subscriber S) (world : Surroundings S) (block : Nat) :
    Start S → List (Nat × S)
  | .supplied snapshot => s.putWrites snapshot block
  | .fresh => s.buildWrites world.source block
  | .usual =>
    if s.settings.sharesAs .slave then
      match world.published with
      | some record => s.putWrites record.snapshot record.block
      | none => s.buildWrites world.source block
    else s.buildWrites world.source block

def writes (s : Subscriber S) : Action S → List (Nat × S)
  | .establish world block start => s.establishWrites world block start
  | .update b => s.updateWrites b
  | .absorb (some record) =>
    if s.outranks record then [] else s.putWrites record.snapshot record.block
  | .heal source block => if s.healed then [] else s.buildWrites source block
  | .put (some snapshot) block => s.putWrites snapshot block
  | _ => []

def written (s : Subscriber S) : List (Action S) → List (Nat × S)
  | [] => []
  | a :: rest => s.writes a ++ (s.act a).written rest

end Subscriber

end ChainReplica
