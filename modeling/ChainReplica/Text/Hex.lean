import ChainReplica.Text.Numeral

/-!
# Hexadecimal strings of fixed length

Addresses, hashes and byte strings are written as `0x` and two lower-case
digits per byte. Reading takes either case, and the marker may be missing.
-/

namespace ChainReplica

namespace Hex

/-- The lowest `width` hexadecimal digits of a number, most significant first. -/
def fixed (width n : Nat) : List Char :=
  (List.range width).reverse.map fun place => Nat.digitChar (n / Nat.pow 16 place % 16)

def byte (b : UInt8) : List Char := fixed 2 b.toNat

/-- A byte string behind the marker. -/
def bytes (data : List UInt8) : String := String.ofList ('0' :: 'x' :: data.flatMap byte)

/-- The text behind the marker, if it has one. -/
def unmarked : List Char → List Char
  | '0' :: 'x' :: rest => rest
  | '0' :: 'X' :: rest => rest
  | cs => cs

/-- The number that exactly `width` digits denote. -/
def sized? (width : Nat) (s : String) : Option Nat :=
  let body := unmarked s.toList
  if body.length = width then Numeral.read? 16 body else none

def pairs? : List Char → Option (List UInt8)
  | [] => some []
  | [_] => none
  | a :: b :: rest => do
    let high ← Numeral.digitBelow? 16 a
    let low ← Numeral.digitBelow? 16 b
    let tail ← pairs? rest
    return UInt8.ofNat (16 * high + low) :: tail

def readBytes? (s : String) : Option (List UInt8) := pairs? (unmarked s.toList)

end Hex

end ChainReplica
