import ChainReplica.Text.Numeral

/-!
# Hosts that are numbers

A host may be given by the numbers of its address: four bytes between points, in
decimal, octal or hexadecimal, where the last number may fill the bytes that are
left; or eight groups of sixteen bits between colons, of which a row of zeros may
be left out.
-/

namespace ChainReplica

namespace Host

/-! ## Four bytes -/

/-- A part of a numeric host: decimal, octal behind `0`, hexadecimal behind `0x`. -/
def part? : List Char → Option Nat
  | [] => none
  | '0' :: 'x' :: rest => Numeral.read? 16 rest
  | '0' :: 'X' :: rest => Numeral.read? 16 rest
  | '0' :: c :: rest => Numeral.read? 8 (c :: rest)
  | cs => Numeral.read? 10 cs

/-- The parts of a host between points, without an empty last one. -/
def partsOf (host : List Char) : List (List Char) :=
  let parts := host.splitOn '.'
  if 1 < parts.length ∧ parts.getLast? = some [] then parts.dropLast else parts

/-- Whether a host has to be read as numbers, because its last part is one. -/
def isNumeric (host : List Char) : Bool :=
  match (partsOf host).getLast? with
  | none => false
  | some last => !last.isEmpty
      && (last.all Char.isDigit
        || ((last.take 2 == ['0', 'x'] || last.take 2 == ['0', 'X']) && (part? last).isSome))

/-- Whether the parts are at most four numbers of a byte each, of which the last
one may fill the rest of four bytes. -/
def isVersion4 (host : List Char) : Bool :=
  let parts := partsOf host
  match parts.mapM part? with
  | none => false
  | some ns => ns.length ≤ 4 && ns.dropLast.all (· < 256)
      && ns.getLast?.all fun n => n < Nat.pow 256 (5 - ns.length)

/-! ## Eight groups -/

/-- A decimal byte without leading zeros. -/
def isByte (cs : List Char) : Bool :=
  !cs.isEmpty && (cs.head? != some '0' || cs.length == 1)
    && (Numeral.read? 10 cs).any (· < 256)

/-- The groups of an address of version six between colons. A last group of four
bytes counts twice, where it is allowed. -/
def groups? (tail : Bool) (part : List Char) : Option Nat :=
  if part.isEmpty then some 0
  else
    let gs := part.splitOn ':'
    let isGroup (g : List Char) := 1 ≤ g.length && g.length ≤ 4 && (Numeral.read? 16 g).isSome
    let isBytes (g : List Char) := (g.splitOn '.').length == 4 && (g.splitOn '.').all isByte
    match gs.getLast? with
    | none => none
    | some last =>
      if !gs.dropLast.all isGroup then none
      else if isGroup last then some gs.length
      else if tail && isBytes last then some (gs.length + 1)
      else none

/-- Splits at the first pair of colons. -/
def splitAtGap : List Char → List Char × Option (List Char)
  | [] => ([], none)
  | ':' :: ':' :: rest => ([], some rest)
  | c :: rest => let (front, back) := splitAtGap rest; (c :: front, back)

/-- Eight groups, or fewer around one gap. -/
def isVersion6 (cs : List Char) : Bool :=
  match splitAtGap cs with
  | (front, none) => groups? true front == some 8
  | (front, some back) => match groups? false front, groups? true back with
    | some a, some b => a + b ≤ 7
    | _, _ => false

end Host

end ChainReplica
