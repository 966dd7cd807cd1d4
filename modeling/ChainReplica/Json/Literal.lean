import ChainReplica.Json.Value
import ChainReplica.Json.Binary

/-!
# What a JSON text says

A `Literal` is a JSON text after its grammar was read and before anything was
decided about what it means: numbers are still digits, the members of an object
keep their order and may repeat a key, and a string may be unreadable, because
it names one half of a surrogate pair by its code without the other.

The functions of this module decide what a literal means where a value of a
certain kind is expected. A part that nobody asks about is never decided, so a
member that is not known may hold anything that follows the grammar.

- `count?`: a plain integer of 64 bits
- `text?`: a readable string
- `fields?`: a record, as an object or as an array of its fields
-/

namespace ChainReplica

namespace Json

/-- A number as it is written: sign, digits before and after the point, and
the exponent with its sign. The part after the point is empty without a point. -/
structure Written where
  negative : Bool
  whole : List Nat
  places : List Nat
  exponent : Option (Bool × List Nat)

/-- A JSON text whose grammar was read. -/
inductive Literal where
  | null
  | bool (b : Bool)
  | number (n : Written)
  /-- A string; none if it is unreadable. -/
  | string (s : Option String)
  | array (items : List Literal)
  | object (members : List (Option String × Literal))

/-! ## Numbers -/

namespace Written

/-- The digits gathered from the front of a number, as far as they fit 64 bits. -/
structure Gathered where
  significand : Nat
  scale : Int
  full : Bool

/-- Takes a digit before the point. After one that does not fit, the others
only count. -/
def Gathered.whole (g : Gathered) (digit : Nat) : Gathered :=
  let next := g.significand * 10 + digit
  if g.full || Numeral.countLimit ≤ next then { g with scale := g.scale + 1, full := true }
  else { g with significand := next }

/-- Takes a digit after the point. After one that does not fit, the others are
ignored. -/
def Gathered.place (g : Gathered) (digit : Nat) : Gathered :=
  let next := g.significand * 10 + digit
  if g.full || Numeral.countLimit ≤ next then { g with full := true }
  else { g with significand := next, scale := g.scale - 1 }

/-- The greatest exponent that is told apart from greater ones. -/
def exponentLimit : Nat := 0x7fffffff

/-- Divides by ten to the power, at most 308 places at a time. -/
def divideSteps (bits : Nat) : Nat → Nat → Nat
  | _, 0 => bits
  | places, fuel + 1 =>
    if bits = 0 then 0
    else
      let step := min places 308
      let f := Binary.magnitude bits
      let p := Binary.powerOfTen step
      let quotient := Binary.round ⟨f.num * p.den, f.den * p.num⟩
      if places ≤ 308 then quotient else divideSteps quotient (places - 308) fuel

/-- The magnitude `significand * 10 ^ scale`, rounded at each step; none if it
is too great. -/
def magnitude? (significand : Nat) (scale : Int) : Option Nat :=
  let start := Binary.round ⟨significand, 1⟩
  if 0 ≤ scale then
    if significand = 0 then some 0
    else if 308 < scale then none
    else
      let f := Binary.magnitude start
      let p := Binary.powerOfTen scale.toNat
      let product := Binary.round ⟨f.num * p.num, f.den * p.den⟩
      if Binary.infinity ≤ product then none else some product
  else some (divideSteps start (-scale).toNat 8)

def signed (negative : Bool) (bits : Nat) : Number :=
  .binary (UInt64.ofNat (if negative then bits + Binary.signBit else bits))

/-- The number as floating point; none if it is too great. -/
def binary? (n : Written) : Option Number :=
  let whole := n.whole.foldl Gathered.whole ⟨0, 0, false⟩
  let all := n.places.foldl Gathered.place { whole with full := false }
  match n.exponent with
  | none => (magnitude? all.significand all.scale).map (signed n.negative)
  | some (minus, ds) =>
    let exponent := Numeral.value 10 ds
    if exponentLimit < exponent then
      if minus || all.significand == 0 then some (signed n.negative 0) else none
    else
      let scale := if minus then all.scale - Int.ofNat exponent else all.scale + Int.ofNat exponent
      (magnitude? all.significand scale).map (signed n.negative)

/-- Whether the number is written without point and exponent. -/
def plain (n : Written) : Bool := n.places.isEmpty && n.exponent.isNone

/-- A plain integer without sign that fits 64 bits. -/
def count? (n : Written) : Option Nat :=
  if n.plain && !n.negative then
    (some (Numeral.value 10 n.whole)).filter (· < Numeral.countLimit)
  else none

/-- An integer, if the number is plain and fits 64 bits with its sign; a
floating point number otherwise. -/
def number? (n : Written) : Option Number :=
  let v := Numeral.value 10 n.whole
  if n.plain && !n.negative && v < Numeral.countLimit then some (.natural v)
  else if n.plain && n.negative && 0 < v && v ≤ Binary.signBit then some (.negative (v - 1))
  else n.binary?

end Written

namespace Literal

/-! ## Expected kinds -/

def count? : Literal → Option Nat
  | .number n => n.count?
  | _ => none

def text? : Literal → Option String
  | .string s => s
  | _ => none

def member? (l : Literal) (key : String) : Option Literal :=
  match l with
  | .object members => (members.find? fun m => m.1 == some key).map (·.2)
  | _ => none

/-- Whether every key can be read, and none of the names stands twice. -/
def wellKeyed (names : List String) (members : List (Option String × Literal)) : Bool :=
  members.all (fun m => m.1.isSome)
    && names.all fun name => (members.filter fun m => m.1 == some name).length ≤ 1

/-- The fields of a record, in the order of their names; none for a field that
is missing. A record is an object, or an array of its fields in order. -/
def fields? (names : List String) : Literal → Option (List (Option Literal))
  | .object members =>
    if wellKeyed names members then
      some (names.map fun name => (members.find? fun m => m.1 == some name).map (·.2))
    else none
  | .array items =>
    if items.length ≤ names.length then
      some (items.map some ++ List.replicate (names.length - items.length) none)
    else none
  | _ => none

end Literal

end Json

end ChainReplica
