import ChainReplica.Venue

/-!
# Counting the logs of a contract

The simplest venue: its snapshot is how many logs a contract emitted. It drives
the simulation.
-/

namespace ChainReplica

structure Counter where
  count : Nat
  deriving DecidableEq, Repr

namespace Counter

def codec : Codec Counter where
  write c := .record [("count", .count c.count)]
  read? l := (l.field₁? "count" Json.Literal.count?).map (⟨·⟩)

/-- A log of the contract adds one. -/
def rule (address : Address) : LogRule Counter := fun c log _ =>
  .ok (if log.address = address then some ⟨c.count + 1⟩ else none)

def venue (address : Address) : Venue Counter :=
  { Venue.ofRule [address] (rule address) codec with
    identifier := some (Venue.poolIdentifier "counter" address) }

/-- Starts from the same count at every block, once the first calls have failed. -/
def supply (initial failing : Nat) : Supply Counter := fun call block =>
  if call < failing then
    .error (.plain .generation ("Counter source unavailable at block " ++ toString block))
  else .ok ⟨initial⟩

end Counter

end ChainReplica
