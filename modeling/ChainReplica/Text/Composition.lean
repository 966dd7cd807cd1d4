import ChainReplica.Text.Composition.Parts
import ChainReplica.Text.Composition.Rank

/-!
# Characters put together

One text may be written in several ways: a letter with a mark is one character
or two, and marks that do not touch may stand in either order. `compose` chooses
one of them. It takes all characters apart, puts the marks behind each letter in
the order of their ranks, and puts together what can be.
-/

namespace ChainReplica

namespace Composition

/-! ## Syllables of the Korean script -/

/-- The first of the consonants that begin a syllable. -/
def leadBase : Nat := 0x1100

def leadCount : Nat := 19

def vowelBase : Nat := 0x1161

def vowelCount : Nat := 21

/-- The character before the consonants that end a syllable. -/
def tailBase : Nat := 0x11A7

/-- How many ways there are to end a syllable, one of them without consonant. -/
def tailCount : Nat := 28

def syllableBase : Nat := 0xAC00

def syllableCount : Nat := leadCount * vowelCount * tailCount

/-- The consonants and the vowel of a syllable. -/
def splitSyllable? (c : Char) : Option (List Char) :=
  let i := c.toNat - syllableBase
  if c.toNat < syllableBase ∨ syllableCount ≤ i then none
  else
    let tail := i % tailCount
    some (Char.ofNat (leadBase + i / (vowelCount * tailCount))
      :: Char.ofNat (vowelBase + i / tailCount % vowelCount)
      :: if tail = 0 then [] else [Char.ofNat (tailBase + tail)])

/-- The syllable of two consonants or vowels, or of a syllable and a last consonant. -/
def joinSyllable? (a b : Char) : Option Char :=
  let lead := a.toNat - leadBase
  let vowel := b.toNat - vowelBase
  let syllable := a.toNat - syllableBase
  let tail := b.toNat - tailBase
  if leadBase ≤ a.toNat ∧ lead < leadCount ∧ vowelBase ≤ b.toNat ∧ vowel < vowelCount then
    some (Char.ofNat (syllableBase + (lead * vowelCount + vowel) * tailCount))
  else if syllableBase ≤ a.toNat ∧ syllable < syllableCount ∧ syllable % tailCount = 0
      ∧ tailBase < b.toNat ∧ tail < tailCount then
    some (Char.ofNat (a.toNat + tail))
  else none

/-! ## Taking apart -/

/-- One step of taking a character apart. -/
def parts? (c : Char) : Option (List Char) :=
  match joined.row? c <|> dissolved.row? c with
  | some r => some (r.numbers.map Char.ofNat)
  | none => none

/-- How many steps it takes at most. -/
def depth : Nat := 8

/-- Takes a character apart, in at most so many steps. -/
def splitWithin : Nat → Char → List Char
  | 0, c => [c]
  | steps + 1, c => match parts? c with
    | some cs => cs.flatMap (splitWithin steps)
    | none => [c]

/-- What a character is made of in the end. -/
def split (c : Char) : List Char := (splitSyllable? c).getD (splitWithin depth c)

/-! ## The order of marks -/

/-- Puts a character before a text, but behind the marks at the front that have
lower ranks. A letter stays in front. -/
def insertMark (c : Char) : List Char → List Char
  | [] => [c]
  | d :: rest => if rank d ≠ 0 ∧ rank d < rank c then d :: insertMark c rest else c :: d :: rest

/-- Puts the marks behind each letter in the order of their ranks. -/
def arrange : List Char → List Char
  | [] => []
  | c :: rest => insertMark c (arrange rest)

/-! ## Putting together -/

/-- The character that two are put together to. -/
def join? (a b : Char) : Option Char :=
  match joinSyllable? a b with
  | some c => some c
  | none => (joined.rows.find? fun r => r.numbers == [a.toNat, b.toNat]).map fun r =>
      Char.ofNat r.first

/-- Puts a letter together with what follows it. `kept` are the marks between
that could not be, nearest first, and `last` is the rank of the nearest: a mark
of the same rank, or a letter behind marks, cannot reach the letter. -/
def joinFrom (letter : Char) (kept : List Char) (last : Nat) : List Char → List Char
  | [] => letter :: kept.reverse
  | c :: rest =>
    let reached := if kept.isEmpty || last < rank c then join? letter c else none
    match reached with
    | some both => joinFrom both kept last rest
    | none =>
      if rank c = 0 then letter :: (kept.reverse ++ joinFrom c [] 0 rest)
      else joinFrom letter (c :: kept) (rank c) rest

/-- Puts letters together with their marks. Marks at the front have no letter. -/
def joinAll : List Char → List Char
  | [] => []
  | c :: rest => if rank c = 0 then joinFrom c [] 0 rest else c :: joinAll rest

def compose (text : List Char) : List Char := joinAll (arrange (text.flatMap split))

end Composition

end ChainReplica
