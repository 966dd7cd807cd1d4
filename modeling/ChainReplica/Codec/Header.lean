import ChainReplica.Chain.Basic
import ChainReplica.Codec

/-!
# The written form of headers

A header is a record of its number, both hashes and the time. A hash is written
as a hexadecimal string; it is read from one, or from an array of its bytes.
-/

namespace ChainReplica

namespace Hash

def byte? (l : Json.Literal) : Option UInt8 :=
  (l.count?.filter (· < 256)).map UInt8.ofNat

def ofLiteral? : Json.Literal → Option Hash
  | .string s => s.bind read?
  | .array items => if items.length = 32 then (items.mapM byte?).map ofBytes else none
  | _ => none

end Hash

namespace Header

def codec : Codec Header where
  write h := .record [("number", .count h.number), ("hash", .string h.hash.text),
    ("parent_hash", .string h.parent.text), ("timestamp", .count h.timestamp)]
  read? l := match l.fields? ["number", "hash", "parent_hash", "timestamp"] with
    | some [some number, some hash, some parent, some timestamp] => do
      return ⟨← number.count?, ← Hash.ofLiteral? hash, ← Hash.ofLiteral? parent, ← timestamp.count?⟩
    | _ => none

end Header

end ChainReplica
