import ChainReplica.Venue

/-!
# Writing down the logs of a contract

The snapshot of this venue is the list of all logs it was given, with their
positions and the time of their block. Two snapshots are equal only if the same
logs were folded in the same order, so it shows what a subscriber did.
-/

namespace ChainReplica

/-- What was written down. -/
structure Journal where
  entries : List String
  deriving DecidableEq, Repr

namespace Journal

/-- The strings of a list, if all are readable. -/
def texts? : Json.Literal → Option (List String)
  | .array items => items.mapM Json.Literal.text?
  | _ => none

def codec : Codec Journal where
  write j := .record [("v", .array (j.entries.map .string))]
  read? l := (l.field₁? "v" texts?).map (⟨·⟩)

/-- A number, or a dash for a missing one. -/
def cell (n : Option Nat) : String :=
  match n with
  | some n => Numeral.decimal n
  | none => "-"

def entry (log : Log) (header : Option Header) : String :=
  cell log.block ++ "." ++ cell log.index ++ "@" ++ cell (header.map (·.timestamp))

/-- A log of the contract is written down. A log with the poisoned index fails,
whatever contract it is of. -/
def rule (address : Address) (poison : Option Nat) : LogRule Journal := fun j log header =>
  if poison.isSome ∧ log.index = poison then .error (.plain .processing "poisoned log")
  else if log.address = address then .ok (some ⟨j.entries ++ [entry log header]⟩)
  else .ok none

def venue (address : Address) (poison : Option Nat) (tracking : Bool) : Venue Journal :=
  { Venue.ofRule [address, 0] (rule address poison) codec with tracking := tracking }

/-- Starts with the block it was asked for, once the first calls have failed. -/
def supply (failing : Nat) : Supply Journal := fun call block =>
  if call < failing then .error (.plain .generation ("no source at " ++ toString block))
  else .ok ⟨["gen:" ++ Numeral.decimal block]⟩

end Journal

end ChainReplica
