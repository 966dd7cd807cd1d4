import ChainReplica.Replica
import ChainReplica.Settings
import ChainReplica.Subscription
import ChainReplica.Venue

/-!
# Subscribers

A subscriber keeps the snapshot of one venue in step with the chain. Its
operations are pure: from a subscriber, and what the outside world answers at
that moment, they make the next subscriber, a result, and the list of effects
they ask for, in order. Whoever runs subscribers carries the effects out.

Every snapshot is written on one path, `put`:

- a sleeping subscriber ignores it;
- a master that shares also publishes the snapshot;
- a slave that shares does not drop its snapshot, but asks for a refresh from
  the cache instead. Requests that come while one is waiting are merged with it.
-/

namespace ChainReplica

/-- What an operation asks of the outside world. -/
inductive Effect (S : Type) where
  /-- A snapshot was built from scratch, or would have been. -/
  | generate (block : Nat)
  /-- Publish the snapshot of a block. -/
  | store (block : Nat) (snapshot : S)
  /-- Announce a subscription without published snapshot. -/
  | announce (block : Nat)
  /-- Register for logs from a block on. -/
  | register (block : Nat)
  /-- Submit a job that builds the missing snapshot at a block. -/
  | heal (block : Nat)
  /-- Read the cache again after the delay. -/
  | refresh
  /-- A refresh was waiting already. -/
  | coalesce
  deriving DecidableEq, Repr

structure Subscriber (S : Type) where
  id : Subscription
  venue : Venue S
  settings : Settings
  replica : Replica S
  /-- Whether a refresh from the cache is waiting out its delay. -/
  refreshing : Bool

/-- What an operation leaves behind. -/
structure Outcome (S : Type) where
  subscriber : Subscriber S
  effects : List (Effect S)
  result : Except Failure Unit

namespace Subscriber

variable {S : Type}

def new (id : Subscription) (venue : Venue S) (settings : Settings) : Subscriber S where
  id := id
  venue := venue
  settings := settings
  replica := .new settings.retention
  refreshing := false

/-! ## Writing a snapshot -/

/-- Asks for a refresh from the cache, unless one is waiting. -/
def requestRefresh (s : Subscriber S) : Subscriber S × List (Effect S) :=
  if s.refreshing then (s, [.coalesce]) else ({ s with refreshing := true }, [.refresh])

/-- Writes a snapshot, or drops the one held. -/
def put (s : Subscriber S) (snapshot : Option S) (block : Nat) : Subscriber S × List (Effect S) :=
  if s.replica.inactive then (s, [])
  else match snapshot with
    | none =>
      if s.settings.sharesAs .slave then s.requestRefresh
      else ({ s with replica := s.replica.apply none block }, [])
    | some x =>
      ({ s with replica := s.replica.apply (some x) block },
        if s.settings.sharesAs .master then [.store block x] else [])

/-! ## Reorganizations -/

/-- Makes the move that a rollback or a restart calls for. -/
def rewind (s : Subscriber S) (move : Rewind S) : Subscriber S × List (Effect S) :=
  match move with
  | .keep => (s, [])
  | .to block snapshot => s.put (some snapshot) block
  | .clear block => s.put none block

/-- Goes back to a block that both branches of the chain share. -/
def rollback (s : Subscriber S) (block : Nat) : Subscriber S × List (Effect S) :=
  if s.replica.inactive then (s, [])
  else
    let (move, replica) := s.replica.rollback block
    { s with replica := replica }.rewind move

/-- Starts over at a block: everything before it is forgotten. -/
def restart (s : Subscriber S) (block : Nat) : Subscriber S × List (Effect S) :=
  if s.replica.inactive then (s, [])
  else
    let (move, replica) := s.replica.restart block
    { s with replica := replica }.rewind move

/-- Marks the snapshot as not trusted; the next rollback goes back behind it. -/
def invalidate (s : Subscriber S) : Subscriber S :=
  if s.replica.inactive then s else { s with replica := s.replica.invalidate }

/-- Puts the subscriber to sleep for good. -/
def inactivate (s : Subscriber S) : Subscriber S := { s with replica := s.replica.inactivate }

/-! ## Reading -/

def read? (s : Subscriber S) (least : Nat) : Option S := s.replica.fresh? least s.venue.tracking

end Subscriber

end ChainReplica
