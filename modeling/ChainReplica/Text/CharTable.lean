import ChainReplica.Text.Numeral

/-!
# Tables of characters

A property of characters that follows no rule is given as a table. Its rows are
ranges of characters, with numbers that belong to all characters of a range. A
table is written down as lines of words in hexadecimal, a word for each row:
`30-39` is a range without numbers, `1c8:1c7.41` a single character with two.
The tables of this library are those of version 17 of the Unicode standard.
-/

namespace ChainReplica

/-- A range of characters, both ends included, and the numbers that belong to it. -/
structure CharRow where
  first : Nat
  last : Nat
  numbers : List Nat
  deriving DecidableEq, Repr

namespace CharRow

/-- A text up to the first of a character, and what follows this one. -/
def cut (mark : Char) : List Char → List Char × Option (List Char)
  | [] => ([], none)
  | c :: rest =>
    if c = mark then ([], some rest)
    else let (front, back) := cut mark rest; (c :: front, back)

/-- Reads a word. -/
def read? (word : List Char) : Option CharRow := do
  let (range, numbers) := cut ':' word
  let (first, last) := cut '-' range
  let first ← Numeral.read? 16 first
  let last ← match last with
    | none => some first
    | some cs => Numeral.read? 16 cs
  let numbers ← match numbers with
    | none | some [] => some []
    | some cs => (cs.splitOn '.').mapM (Numeral.read? 16)
  return ⟨first, last, numbers⟩

end CharRow

/-- Rows in increasing order, of which no two share a character. -/
structure CharTable where
  rows : List CharRow
  deriving DecidableEq, Repr

namespace CharTable

def read (lines : List String) : CharTable :=
  ⟨lines.flatMap fun line => (line.toList.splitOn ' ').filterMap CharRow.read?⟩

/-- The first row that a character is in, among those that begin no later. -/
def find? (c : Char) : List CharRow → Option CharRow
  | [] => none
  | r :: rest =>
    if c.toNat < r.first then none else if c.toNat ≤ r.last then some r else find? c rest

def row? (t : CharTable) (c : Char) : Option CharRow := find? c t.rows

def has (t : CharTable) (c : Char) : Bool := (t.row? c).isSome

end CharTable

end ChainReplica
