import ChainReplica.Text.Numeral

/-!
# Floating point numbers of 64 bits

A finite number is a sign and a magnitude `mantissa * 2 ^ exponent`, packed
into 64 bits. Everything here is exact arithmetic on natural numbers:

- `round` gives the bits of the magnitude nearest to a fraction, a tie going to
  the even mantissa;
- `shortest` gives the fewest decimal digits that read back as the magnitude,
  and among those the nearest.
-/

namespace ChainReplica

namespace Binary

/-- The bits of infinity, and the least bits of no finite magnitude. -/
def infinity : Nat := 0x7FF0000000000000

def signBit : Nat := 0x8000000000000000

/-- The least mantissa of a number that uses all of its bits: `2 ^ 52`. -/
def unit : Nat := 0x10000000000000

/-- A magnitude as a fraction. -/
structure Fraction where
  num : Nat
  den : Nat

def Fraction.scale (f : Fraction) (power : Int) : Fraction :=
  if 0 ≤ power then ⟨f.num * Nat.pow 2 power.toNat, f.den⟩
  else ⟨f.num, f.den * Nat.pow 2 (-power).toNat⟩

/-- The quotient, rounded to nearest, a tie to even. -/
def Fraction.nearest (f : Fraction) : Nat :=
  let q := f.num / f.den
  let twice := 2 * (f.num % f.den)
  if twice < f.den then q
  else if f.den < twice then q + 1
  else q + q % 2

def magnitude (bits : Nat) : Fraction :=
  let exponent := bits / unit
  let mantissa := bits % unit
  if exponent = 0 then Fraction.scale ⟨mantissa, 1⟩ (-1074)
  else Fraction.scale ⟨mantissa + unit, 1⟩ (Int.ofNat exponent - 1075)

/-- The greatest power `e`, at least `-1074`, with `2 ^ 52 * 2 ^ e` not above
the fraction; `-1074` if there is none. -/
def power (f : Fraction) : Int :=
  let guess : Int := Int.ofNat f.num.log2 - Int.ofNat f.den.log2 - 52
  let fits (e : Int) : Bool :=
    let g := f.scale (-e)
    unit * g.den ≤ g.num
  let e := if fits guess then guess else guess - 1
  if e < -1074 then -1074 else e

/-- The bits of the magnitude nearest to a fraction; of infinity if it is too great. -/
def round (f : Fraction) : Nat :=
  if f.num = 0 then 0
  else
    let e := power f
    let mantissa := (f.scale (-e)).nearest
    if mantissa < unit then mantissa
    else min infinity ((e + 1075).toNat * unit + (mantissa - unit))

def powerOfTen (n : Nat) : Fraction := magnitude (round ⟨Nat.pow 10 n, 1⟩)

/-- The decimal `digits * 10 ^ scale` as a fraction. -/
def decimal (digits : Nat) (scale : Int) : Fraction :=
  if 0 ≤ scale then ⟨digits * Nat.pow 10 scale.toNat, 1⟩
  else ⟨digits, Nat.pow 10 (-scale).toNat⟩

/-- Of the two decimals with the last place `scale` that surround the magnitude
the nearer one that rounds to it. -/
def candidate? (bits : Nat) (f : Fraction) (scale : Int) : Option Nat :=
  let g : Fraction := if 0 ≤ scale then ⟨f.num, f.den * Nat.pow 10 scale.toNat⟩
    else ⟨f.num * Nat.pow 10 (-scale).toNat, f.den⟩
  let low := g.num / g.den
  let reads (d : Nat) : Bool := round (decimal d scale) == bits
  let nearest := g.nearest
  let other := if nearest = low then low + 1 else low
  if reads nearest then some nearest else if reads other then some other else none

/-- The first of the given places at which a decimal rounds to the magnitude. -/
def search (bits : Nat) (f : Fraction) : List Int → Option (Nat × Int)
  | [] => none
  | scale :: rest => match candidate? bits f scale with
    | some d => some (d, scale)
    | none => search bits f rest

/-- Removes the zeros at the end of a decimal. -/
def dropZeros (digits : Nat) (scale : Int) : Nat → Nat × Int
  | 0 => (digits, scale)
  | fuel + 1 =>
    if digits % 10 = 0 ∧ digits ≠ 0 then dropZeros (digits / 10) (scale + 1) fuel
    else (digits, scale)

/-- The decimal with the fewest digits that rounds to the magnitude: its digits
and the power of ten of the last one. -/
def shortest (bits : Nat) : Nat × Int :=
  let f := magnitude bits
  -- The first digit of a magnitude stands at a place between -324 and 308.
  let top : Int := if f.den ≤ f.num then Int.ofNat (Numeral.digits 10 (f.num / f.den)).length
    else 1 - Int.ofNat (Numeral.digits 10 (f.den / f.num)).length
  let places := (List.range 19).map fun i => top - Int.ofNat i
  match search bits f places with
  | some (d, scale) => dropZeros d scale 20
  | none => (0, 0)

/-- Positional for magnitudes from `1e-5` up to below `1e16`, with one digit
after the point at least; with an exponent and its sign outside. -/
def render (bits : UInt64) : List Char :=
  let n := bits.toNat
  let sign := if n < signBit then [] else ['-']
  let absolute := n % signBit
  if absolute = 0 then sign ++ ['0', '.', '0']
  else
    let (d, scale) := shortest absolute
    let ds := Numeral.text 10 d
    let size : Int := ds.length
    let point := size + scale
    let body :=
      if 0 ≤ scale ∧ point ≤ 16 then ds ++ List.replicate scale.toNat '0' ++ ['.', '0']
      else if 0 < point ∧ point ≤ 16 then ds.take point.toNat ++ ['.'] ++ ds.drop point.toNat
      else if -5 < point ∧ point ≤ 0 then ['0', '.'] ++ List.replicate (-point).toNat '0' ++ ds
      else
        let exponent := point - 1
        let exponentText := if exponent < 0 then '-' :: Numeral.text 10 (-exponent).toNat
          else '+' :: Numeral.text 10 exponent.toNat
        let lead := if ds.length = 1 then ds else ds.take 1 ++ ['.'] ++ ds.drop 1
        lead ++ ['e'] ++ exponentText
    sign ++ body

end Binary

end ChainReplica
