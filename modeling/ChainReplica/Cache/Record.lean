import ChainReplica.Codec
import ChainReplica.Failure
import ChainReplica.Json.Document
import ChainReplica.Subscription

/-!
# What the shared cache carries

A `Record` is a published snapshot with the block it is the state of. An
`Announcement` asks the masters to take up a subscription for which no snapshot
was found. Both are JSON texts.
-/

namespace ChainReplica

/-! ## Snapshots -/

/-- A snapshot and its block. -/
structure Record (S : Type) where
  block : Nat
  snapshot : S
  deriving DecidableEq, Repr

namespace Record

variable {S : Type}

/-- A record of the block and the written form of the snapshot. -/
def codec (c : Codec S) : Codec (Record S) where
  write r := .record [("blockNumber", .count r.block), ("snapshot", c.write r.snapshot)]
  read? l := (l.field₂? ("blockNumber", Json.Literal.count?) ("snapshot", c.read?)).map
    fun p => ⟨p.1, p.2⟩

def encode (c : Codec S) (r : Record S) : String := (codec c).encode r

def decode (c : Codec S) (s : String) : Except Failure (Record S) :=
  match (codec c).decode? s with
  | some r => .ok r
  | none => .error <| .because .serialization "Failed to decode cache record"
      (some "not the text of a record")

end Record

/-! ## Announcements -/

/-- A subscription that found no snapshot, and what tells its pool from others. -/
structure Announcement where
  subscription : Subscription
  block : Nat
  identifier : Option Json.Value

namespace Announcement

/-- A record whose last field may be missing or null. -/
def codec : Codec Announcement where
  write a := .record ([("groupKey", .string a.subscription.group),
    ("name", .string a.subscription.name), ("blockNumber", .count a.block)]
    ++ (a.identifier.map fun v => ("identifier", v)).toList)
  read? l := match l.fields? ["groupKey", "name", "blockNumber", "identifier"] with
    | some [some group, some name, some block, identifier] => do
      let found ← match identifier with
        | none | some .null => some none
        | some l => (l.value? (Json.depthLimit - 1)).map some
      return ⟨⟨← group.text?, ← name.text?⟩, ← block.count?, found⟩
    | _ => none

end Announcement

end ChainReplica
