import ChainReplica.Cache.Record
import ChainReplica.Subscriber.Basic

/-!
# The first snapshot, refreshes and repairs

`establish` finds the first snapshot and registers for logs. The snapshot is,
in this order: the one supplied; one from scratch, if that is asked for; on a
slave that shares, the published one, and one from scratch with an announcement
if there is none; one from scratch.

`absorb` is the end of a refresh: what the cache had is taken, unless it is
older than a snapshot that is held and trusted. `heal` is one attempt of the job
that builds a missing snapshot.
-/

namespace ChainReplica

/-- What the outside world answers while a subscriber is set up. -/
structure Surroundings (S : Type) where
  /-- A snapshot from scratch. -/
  source : Source S
  /-- The published snapshot of the subscription, if there is a readable one. -/
  published : Option (Record S)
  /-- The newest block that the masters of the group have processed. -/
  processed : Option Nat
  /-- Whether the registration for logs is accepted. -/
  registration : Except Failure Unit

/-- Where the first snapshot comes from. -/
inductive Start (S : Type) where
  /-- From the cache on a slave that shares, from scratch otherwise. -/
  | usual
  /-- From scratch in any case. -/
  | fresh
  /-- This one. -/
  | supplied (snapshot : S)

/-- What a caller asks of the search for the first snapshot. -/
structure StartOptions (S : Type) where
  /-- A snapshot to begin with. -/
  snapshot : Option S
  /-- Whether it is to be built from scratch, though there may be one in the cache. -/
  fresh : Bool

/-- A snapshot that the caller brings goes before one from scratch. -/
def StartOptions.start {S : Type} (o : StartOptions S) : Start S :=
  match o.snapshot with
  | some snapshot => .supplied snapshot
  | none => if o.fresh then .fresh else .usual

namespace Subscriber

variable {S : Type}

/-- Registers for logs from a block on, after the effects so far. -/
def registered (s : Subscriber S) (effects : List (Effect S)) (world : Surroundings S)
    (block : Nat) : Outcome S :=
  ⟨s, effects ++ [.register block], world.registration⟩

/-- Takes a first snapshot of a block and registers from another on. -/
def adopt (s : Subscriber S) (world : Surroundings S) (snapshot : S) (block baseline : Nat) :
    Outcome S :=
  let (s, effects) := s.put (some snapshot) block
  s.registered effects world baseline

/-- Builds the first snapshot from scratch, and announces it if asked to. -/
def build (s : Subscriber S) (world : Surroundings S) (block : Nat) (announced : Bool) :
    Outcome S :=
  match world.source block with
  | .error e => ⟨s, [.generate block], .error e⟩
  | .ok fresh =>
    let (s, effects) := s.put (some fresh) block
    s.registered (.generate block :: effects ++ if announced then [.announce block] else [])
      world block

/-- Finds the first snapshot and registers for logs. -/
def establish (s : Subscriber S) (world : Surroundings S) (block : Nat) (start : Start S) :
    Outcome S :=
  match start with
  | .supplied snapshot => s.adopt world snapshot block block
  | .fresh => s.build world block false
  | .usual =>
    if s.settings.sharesAs .slave then
      match world.published with
      | some record =>
        s.adopt world record.snapshot record.block (world.processed.getD record.block)
      | none => s.build world block true
    else s.build world block false

/-- Whether a refresh has to leave alone what the cache had. -/
def outranks (s : Subscriber S) (record : Record S) : Bool :=
  s.replica.trusted && record.block < s.replica.pointer

/-- Ends a refresh with what the cache had. -/
def absorb (s : Subscriber S) (found : Option (Record S)) : Subscriber S × List (Effect S) :=
  let s := { s with refreshing := false }
  match found with
  | none => (s, [])
  | some record =>
    if s.outranks record then (s, []) else s.put (some record.snapshot) record.block

/-- Whether a job that builds the missing snapshot has nothing to do any more. -/
def healed (s : Subscriber S) : Bool := s.replica.inactive || s.replica.hasSnapshot

/-- One attempt to build the missing snapshot. Answers whether the job is done. -/
def heal (s : Subscriber S) (source : Source S) (block : Nat) :
    Bool × Subscriber S × List (Effect S) :=
  if s.healed then (true, s, [])
  else match source block with
    | .error _ => (false, s, [.generate block])
    | .ok fresh =>
      let (s, effects) := s.put (some fresh) block
      (true, s, .generate block :: effects)

def healKey (s : Subscriber S) : String := "self-heal:" ++ s.id.text

end Subscriber

end ChainReplica
