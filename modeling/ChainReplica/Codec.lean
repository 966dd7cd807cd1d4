import ChainReplica.Json.Printer
import ChainReplica.Json.Reader

/-!
# The written form of data

A `Codec` writes a kind of data as JSON and reads it back. `Codec.Faithful`
says that reading undoes writing on the data that `valid` describes. Besides
the codecs of plain data this module has two ways to build more:

- `Codec.counted` and `Codec.worded` for numbers of 64 and of 256 bits;
- the functions on `Json.Literal` that read the fields of a record.
-/

namespace ChainReplica

/-- How a kind of data is written and read. -/
structure Codec (α : Type) where
  write : α → Json.Value
  read? : Json.Literal → Option α

namespace Codec

def encode {α : Type} (c : Codec α) (x : α) : String := (c.write x).text

def decode? {α : Type} (c : Codec α) (s : String) : Option α :=
  (Json.readLiteral? s).bind c.read?

/-- Reading undoes writing on valid data. -/
def Faithful {α : Type} (c : Codec α) (valid : α → Prop) : Prop :=
  ∀ x, valid x → c.decode? (c.encode x) = some x

def counted : Codec Nat := ⟨Json.Value.count, Json.Literal.count?⟩

def quoted : Codec String := ⟨.string, Json.Literal.text?⟩

/-- A word: written as a hexadecimal string, read from a string or from a count. -/
def worded : Codec Nat where
  write n := .string (Numeral.writeWord n)
  read?
    | .number n => n.count?
    | .string s => s.bind Numeral.readWord?
    | _ => none

end Codec

namespace Json

def Literal.field₁? {α : Type} (name : String) (read? : Literal → Option α) (l : Literal) :
    Option α :=
  match l.fields? [name] with
  | some [some a] => read? a
  | _ => none

def Literal.field₂? {α β : Type} (first : String × (Literal → Option α))
    (second : String × (Literal → Option β)) (l : Literal) : Option (α × β) :=
  match l.fields? [first.1, second.1] with
  | some [some a, some b] => do return (← first.2 a, ← second.2 b)
  | _ => none

end Json

end ChainReplica
