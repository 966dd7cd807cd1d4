import ChainReplica.History

/-!
# The held snapshot of one subscriber

A `Replica` is the snapshot a subscriber holds, the block it is the state of
(the pointer), the history of earlier snapshots, and two flags: `invalid` says
that the snapshot is not trusted since a reorganization was noticed,
`inactive` that the subscriber sleeps for good.

Rolling back and restarting only prune the history. The move of the pointer
they call for is their answer, a `Rewind`, and is made on the same path as
every other write of a snapshot.
-/

namespace ChainReplica

/-- What a subscriber holds of its venue. -/
structure Replica (S : Type) where
  history : History S
  current : Option S
  pointer : Nat
  invalid : Bool
  inactive : Bool

/-- The move of the pointer that a rollback or a restart calls for. -/
inductive Rewind (S : Type) where
  /-- The current snapshot stays. -/
  | keep
  /-- A checkpoint becomes the current snapshot. -/
  | to (block : Nat) (snapshot : S)
  /-- The current snapshot goes, and the pointer moves to the block. -/
  | clear (block : Nat)

namespace Replica

variable {S : Type}

def new (retention : Nat) : Replica S :=
  { history := .new retention, current := none, pointer := 0, invalid := false, inactive := false }

def hasSnapshot (r : Replica S) : Bool := r.current.isSome

def trusted (r : Replica S) : Bool := r.hasSnapshot && !r.invalid

/-- Moves the pointer. A snapshot is checkpointed, is trusted, and is the
anchor that the history is pruned against; without one the history stays. -/
def apply (r : Replica S) (snapshot : Option S) (block : Nat) : Replica S :=
  match snapshot with
  | some x =>
    { r with
      history := ((r.history.insert block x).prune block).2
      current := some x
      pointer := block
      invalid := false }
  | none => { r with current := none, pointer := block }

/-- Stores a checkpoint and leaves the pointer where it is. -/
def checkpoint (r : Replica S) (block : Nat) (snapshot : S) : Replica S :=
  { r with history := r.history.insert block snapshot }

def invalidate (r : Replica S) : Replica S := { r with invalid := true }

def validate (r : Replica S) : Replica S := { r with invalid := false }

/-- Puts the subscriber to sleep for good. -/
def inactivate (r : Replica S) : Replica S := { r with inactive := true }

/-- Drops checkpoints after `block`. A trusted snapshot is kept with its
checkpoint; an untrusted one gives way to the newest checkpoint left. -/
def rollback (r : Replica S) (block : Nat) : Rewind S × Replica S :=
  if r.invalid then
    let history := (r.history.removeAbove block none).2
    let rewind := match history.latestUpTo block with
      | some (checkpoint, snapshot) => .to checkpoint snapshot
      | none => .clear block
    (rewind, { r with history := history })
  else
    let kept := r.current.map fun _ => r.pointer
    (.keep, { r with history := (r.history.removeAbove block kept).2 })

/-- Drops checkpoints before `block`, and the snapshot with them if it is older. -/
def restart (r : Replica S) (block : Nat) : Rewind S × Replica S :=
  let rewind := if r.hasSnapshot && r.pointer < block then .clear block else .keep
  (rewind, { r with history := (r.history.removeBelow block).2 })

/-- The snapshot, if it is trusted and not older than `least`. The snapshot of
a venue that follows the chain by itself is never too old. -/
def fresh? (r : Replica S) (least : Nat) (tracking : Bool) : Option S :=
  if r.invalid then none
  else if tracking || least ≤ r.pointer then r.current
  else none

end Replica

end ChainReplica
