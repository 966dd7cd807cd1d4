import ChainReplica.Json.Reader

/-!
# Any document

`Literal.value?` is the document that a literal stands for, where any document
will do. All of it has to have a meaning, and it is nested less deep than a
limit.

One key is set aside for documents that are carried as text. An object that
begins with it stands for the document that the text of this member, its only
one, says; there the nesting counts anew. Further back the key is one like
others.
-/

namespace ChainReplica

namespace Json

/-- How deep a text may be nested. -/
def depthLimit : Nat := 128

/-- The key of a document that is carried as text. -/
def carriedKey : String := "$serde_json::private::RawValue"

namespace Literal

/-! ## With a reading of carried texts -/

section

variable (carried : String → Option Value)

mutual

/-- The document, nested less than `depth` deep. -/
def valueWith (depth : Nat) : Literal → Option Value
  | .null => some .null
  | .bool b => some (.bool b)
  | .number n => n.number?.map .number
  | .string s => s.map .string
  | .array items => match depth with
    | below + 2 => (valuesWith (below + 1) items).map .array
    | _ => none
  | .object members => match depth with
    | below + 2 => match members with
      | (key, l) :: rest =>
        if key = some carriedKey then
          match l, rest with
          | .string (some text), [] => carried text
          | _, _ => none
        else (membersWith (below + 1) ((key, l) :: rest)).map fun ms => .object (sortedMembers ms)
      | [] => some (.object [])
    | _ => none

def valuesWith (depth : Nat) : List Literal → Option (List Value)
  | [] => some []
  | l :: rest => do
    let v ← valueWith depth l
    let vs ← valuesWith depth rest
    return v :: vs

def membersWith (depth : Nat) : List (Option String × Literal) → Option (List (String × Value))
  | [] => some []
  | (key, l) :: rest => do
    let k ← key
    let v ← valueWith depth l
    let ms ← membersWith depth rest
    return (k, v) :: ms

end

end

/-! ## Carried texts -/

mutual

def longest : Literal → Nat
  | .string (some s) => s.length
  | .array items => longestItem items
  | .object members => longestMember members
  | _ => 0

def longestItem : List Literal → Nat
  | [] => 0
  | l :: rest => max (longest l) (longestItem rest)

/-- The length of the longest string in the members of an object, keys aside. -/
def longestMember : List (Option String × Literal) → Nat
  | [] => 0
  | (_, l) :: rest => max (longest l) (longestMember rest)

end

/-- The document that a carried text says, with at most `fuel` texts inside each
other. -/
def carriedValue : Nat → String → Option Value
  | 0, _ => none
  | fuel + 1, text => (readLiteral? text).bind (valueWith (carriedValue fuel) depthLimit)

/-- The document, nested less than `depth` deep. A text is longer than the texts
that it carries, so its length is fuel enough. -/
def value? (depth : Nat) (l : Literal) : Option Value :=
  l.valueWith (carriedValue (l.longest + 1)) depth

end Literal

end Json

end ChainReplica
