import ChainReplica.Chain.Basic
import ChainReplica.Codec
import ChainReplica.Failure

/-!
# Venues

A venue is what the chain keeps state for: a pool, say. It brings a type of
snapshots, the rule by which one log changes a snapshot, and the written form
of a snapshot. Everything else - history, reorganizations, sharing, retries -
is the work of a subscriber and the same for every venue.

Building a snapshot from scratch is not part of the venue: it asks the outside
world, and what that answers may differ from call to call. A `Source` is the
world's answer at one moment, a `Supply` its answers call by call.

`foldLogs` folds the logs of one block onto a snapshot. It stops at the first
failure, and tells a snapshot that no log changed from a changed one.
-/

namespace ChainReplica

/-- A snapshot from scratch at a block, as it would be built right now. -/
abbrev Source (S : Type) := Nat → Except Failure S

/-- The sources of the calls in a row, counted from zero. -/
abbrev Supply (S : Type) := Nat → Source S

/-- The rule by which a log changes a snapshot; none if it does not. -/
abbrev LogRule (S : Type) := S → Log → Option Header → Except Failure (Option S)

/-! ## The fold over a block -/

/-- Folds logs onto the snapshot changed so far, or onto the base. -/
def foldOnto {S : Type} (rule : LogRule S) (header : Option Header) (base : S)
    (changed : Option S) : List Log → Except Failure (Option S)
  | [] => .ok changed
  | log :: rest => match rule (changed.getD base) log header with
    | .error e => .error e
    | .ok none => foldOnto rule header base changed rest
    | .ok (some next) => foldOnto rule header base (some next) rest

/-- The snapshot after the logs of a block; none if no log changed it. -/
def foldLogs {S : Type} (rule : LogRule S) (base : S) (logs : List Log)
    (header : Option Header) : Except Failure (Option S) :=
  foldOnto rule header base none logs

/-! ## Venues -/

/-- A venue with snapshots of type `S`. -/
structure Venue (S : Type) where
  /-- The contracts whose logs it wants. -/
  addresses : List Address
  /-- How one log changes a snapshot. -/
  rule : LogRule S
  /-- How the logs of one block change a snapshot. -/
  fold : S → List Log → Option Header → Except Failure (Option S)
  /-- Whether it follows the chain by itself, so that no snapshot is too old. -/
  tracking : Bool
  /-- What tells the pool from others, if there is something. -/
  identifier : Option Json.Value
  /-- The written form of a snapshot. -/
  codec : Codec S

namespace Venue

/-- A venue that folds a block log by log. -/
def ofRule {S : Type} (addresses : List Address) (rule : LogRule S) (codec : Codec S) :
    Venue S where
  addresses := addresses
  rule := rule
  fold := foldLogs rule
  tracking := false
  identifier := none
  codec := codec

def poolIdentifier (kind : String) (address : Address) : Json.Value :=
  .object [("address", .string address.text), ("kind", .string kind)]

/-- A venue seen inside a larger type of snapshots. A snapshot from elsewhere in
that type is left alone. -/
def embed {S T : Type} (v : Venue S) (wrap : S → T) (unwrap : T → Option S) : Venue T where
  addresses := v.addresses
  rule x log header := match unwrap x with
    | some s => (v.rule s log header).map (Option.map wrap)
    | none => .ok none
  fold x logs header := match unwrap x with
    | some s => (v.fold s logs header).map (Option.map wrap)
    | none => .ok none
  tracking := v.tracking
  identifier := v.identifier
  codec :=
    { write := fun x => match unwrap x with
        | some s => v.codec.write s
        | none => .null
      read? := fun l => (v.codec.read? l).map wrap }

end Venue

end ChainReplica
