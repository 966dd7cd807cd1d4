import ChainReplica.Text.Numeral

/-!
# Punycode

A text with characters beyond ASCII, written in letters, digits and hyphens. The
ASCII characters of the text come first, up to the last hyphen. Behind it stands
where the others are put in between, from the lowest character to the highest:
each is given by a number, which counts on over all places of the text so far
and then over the next characters. The numbers have digits from `a` to `z` and
`0` to `9`, lowest first, and weights that adapt to the numbers before.
-/

namespace ChainReplica

namespace Punycode

/-- The value of a digit: letters first, in either case. -/
def digit? (c : Char) : Option Nat :=
  if c.isDigit then some (c.toNat - '0'.toNat + 26)
  else if c.isAlpha then some (c.toLower.toNat - 'a'.toNat)
  else none

/-- The least digit that is not the last of its number, at a position counted in
steps of 36. -/
def threshold (position bias : Nat) : Nat := max 1 (min 26 (position - bias))

/-- Divides down to the range in which the bias is computed; also answers the
bias of the divisions. -/
def settle (delta bias : Nat) : Nat × Nat :=
  if _ : 455 < delta then settle (delta / 35) (bias + 36) else (delta, bias)
termination_by delta
decreasing_by exact Nat.div_lt_self (by omega) (by omega)

/-- The bias for the next number, after one that brought the text to a length. -/
def adapt (delta length : Nat) (first : Bool) : Nat :=
  let damped := if first then delta / 700 else delta / 2
  let (rest, bias) := settle (damped + damped / length) 0
  bias + 36 * rest / (rest + 38)

/-- The numbers that are told apart from greater ones. -/
def limit : Nat := 0x100000000

/-- A number at the front, added to a sum; also answers the rest. -/
def number? (bias : Nat) : Nat → Nat → Nat → List Char → Option (Nat × List Char)
  | _, _, _, [] => none
  | position, weight, sum, c :: rest => do
    let d ← digit? c
    let t := threshold position bias
    let sum := sum + d * weight
    if limit ≤ sum then none
    else if d < t then some (sum, rest)
    else if limit ≤ weight * (36 - t) then none
    else number? bias (position + 36) (weight * (36 - t)) sum rest

/-- Puts in the characters that numbers stand for. `place` is where the next one
would go at least, `code` the character it would be at least. Every number takes
at least one character, so that the length of the text is fuel enough. -/
def insert? : Nat → Nat → Nat → Nat → List Char → List Char → Option (List Char)
  | _, _, _, _, text, [] => some text
  | 0, _, _, _, _, _ :: _ => none
  | fuel + 1, bias, code, place, text, c :: rest => do
    let (sum, rest) ← number? bias 36 1 place (c :: rest)
    let length := text.length + 1
    let code := code + sum / length
    if code.isValidChar then
      insert? fuel (adapt (sum - place) length (place == 0)) code (sum % length + 1)
        (text.insertIdx (sum % length) (Char.ofNat code)) rest
    else none

/-- The text up to the last hyphen, and what follows it. A hyphen at the very
front ends nothing. -/
def splitLast (cs : List Char) : List Char × List Char :=
  let behind := (cs.reverse.takeWhile (· != '-')).reverse
  let before := cs.take (cs.length - behind.length - 1)
  if before.isEmpty then ([], cs) else (before, behind)

def decode? (cs : List Char) : Option (List Char) :=
  let (plain, numbers) := splitLast cs
  insert? numbers.length 72 128 0 plain numbers

end Punycode

end ChainReplica
