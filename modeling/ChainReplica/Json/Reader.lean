import ChainReplica.Json.Literal

/-!
# Reading JSON

`readLiteral?` reads a whole text by the JSON grammar, with white space around
it and between its parts. Each function of the reader takes characters from the
front and answers with what it read and the rest. The recursion is bounded by
fuel, of which twice the length of the text is always enough: of two steps down
one takes a character away.
-/

namespace ChainReplica

namespace Json

/-- Without the white space of the grammar at the front. -/
def skipBlanks : List Char → List Char :=
  List.dropWhile fun c => c = ' ' || c = '\n' || c = '\t' || c = '\r'

/-! ## Strings -/

/-- A piece of a string: a character, or one half of a surrogate pair. -/
inductive Piece where
  | char (c : Char)
  | half (unit : Nat)

/-- Whether a code unit is the first half of a surrogate pair. -/
def isHighHalf (unit : Nat) : Bool := 0xD800 ≤ unit && unit < 0xDC00

def isLowHalf (unit : Nat) : Bool := 0xDC00 ≤ unit && unit < 0xE000

def Piece.ofUnit (unit : Nat) : Piece :=
  if isHighHalf unit || isLowHalf unit then .half unit else .char (Char.ofNat unit)

def shortEscape? : Char → Option Char
  | '"' => some '"'
  | '\\' => some '\\'
  | '/' => some '/'
  | 'b' => some (Char.ofNat 8)
  | 'f' => some (Char.ofNat 12)
  | 'n' => some '\n'
  | 'r' => some '\r'
  | 't' => some '\t'
  | _ => none

/-- The pieces of a string up to its closing quote, and the rest behind it. -/
def pieces : List Char → Option (List Piece × List Char)
  | [] => none
  | '"' :: rest => some ([], rest)
  | '\\' :: 'u' :: a :: b :: c :: d :: rest => do
    let unit ← Numeral.read? 16 [a, b, c, d]
    let (ps, rest) ← pieces rest
    return (.ofUnit unit :: ps, rest)
  | '\\' :: e :: rest => do
    let c ← shortEscape? e
    let (ps, rest) ← pieces rest
    return (.char c :: ps, rest)
  | c :: rest =>
    if c.toNat < 32 || c = '\\' then none
    else do
      let (ps, rest) ← pieces rest
      return (.char c :: ps, rest)

/-- The characters of a string; none if a half of a pair stands alone. -/
def joinHalves : List Piece → Option (List Char)
  | [] => some []
  | .char c :: rest => (joinHalves rest).map (c :: ·)
  | .half high :: .half low :: rest =>
    if isHighHalf high && isLowHalf low then
      (joinHalves rest).map
        (Char.ofNat (0x10000 + (high - 0xD800) * 0x400 + (low - 0xDC00)) :: ·)
    else none
  | .half _ :: _ => none

/-- A string behind its opening quote; its text is missing if it is unreadable. -/
def stringBody (cs : List Char) : Option (Option String × List Char) :=
  (pieces cs).map fun (ps, rest) => ((joinHalves ps).map String.ofList, rest)

/-! ## Numbers -/

def takeDigits : List Char → List Nat × List Char
  | [] => ([], [])
  | c :: rest => match Numeral.digitBelow? 10 c with
    | some d => let (ds, rest) := takeDigits rest; (d :: ds, rest)
    | none => ([], c :: rest)

/-- The digits behind a point, at least one; none without a point. -/
def takePlaces : List Char → Option (List Nat × List Char)
  | '.' :: rest => match takeDigits rest with
    | ([], _) => none
    | (ds, rest) => some (ds, rest)
  | cs => some ([], cs)

/-- The exponent and its sign, with at least one digit. -/
def takeExponent (cs : List Char) : Option (Option (Bool × List Nat) × List Char) :=
  let signed (minus : Bool) (cs : List Char) := match takeDigits cs with
    | ([], _) => none
    | (ds, rest) => some (some (minus, ds), rest)
  let behind : List Char → Option (Option (Bool × List Nat) × List Char)
    | '+' :: rest => signed false rest
    | '-' :: rest => signed true rest
    | rest => signed false rest
  match cs with
  | 'e' :: rest => behind rest
  | 'E' :: rest => behind rest
  | cs => some (none, cs)

/-- A number behind its sign. There are no further digits behind a first zero. -/
def numberBody (negative : Bool) (cs : List Char) : Option (Literal × List Char) := do
  let (whole, rest) := takeDigits cs
  if whole.isEmpty || (whole.head? == some 0 && whole.length != 1) then none
  else
    let (places, rest) ← takePlaces rest
    let (exponent, rest) ← takeExponent rest
    return (.number ⟨negative, whole, places, exponent⟩, rest)

/-! ## Documents -/

mutual

/-- A document at the front, without white space before it. -/
def literal : Nat → List Char → Option (Literal × List Char)
  | 0, _ => none
  | fuel + 1, cs => match cs with
    | 'n' :: 'u' :: 'l' :: 'l' :: rest => some (.null, rest)
    | 't' :: 'r' :: 'u' :: 'e' :: rest => some (.bool true, rest)
    | 'f' :: 'a' :: 'l' :: 's' :: 'e' :: rest => some (.bool false, rest)
    | '"' :: rest => (stringBody rest).map fun (s, rest) => (.string s, rest)
    | '[' :: rest => match skipBlanks rest with
      | ']' :: rest => some (.array [], rest)
      | rest => (items fuel rest).map fun (ls, rest) => (.array ls, rest)
    | '\x7b' :: rest => match skipBlanks rest with
      | '\x7d' :: rest => some (.object [], rest)
      | rest => (members fuel rest).map fun (ms, rest) => (.object ms, rest)
    | '-' :: rest => numberBody true rest
    | cs => numberBody false cs

/-- The items of an array up to its closing bracket, at least one. -/
def items : Nat → List Char → Option (List Literal × List Char)
  | 0, _ => none
  | fuel + 1, cs => do
    let (l, rest) ← literal fuel (skipBlanks cs)
    match skipBlanks rest with
    | ',' :: rest => (items fuel rest).map fun (ls, rest) => (l :: ls, rest)
    | ']' :: rest => some ([l], rest)
    | _ => none

/-- The members of an object up to its closing brace, at least one. -/
def members : Nat → List Char → Option (List (Option String × Literal) × List Char)
  | 0, _ => none
  | fuel + 1, cs => match skipBlanks cs with
    | '"' :: rest => do
      let (key, rest) ← stringBody rest
      match skipBlanks rest with
      | ':' :: rest =>
        let (l, rest) ← literal fuel (skipBlanks rest)
        match skipBlanks rest with
        | ',' :: rest => (members fuel rest).map fun (ms, rest) => ((key, l) :: ms, rest)
        | '\x7d' :: rest => some ([(key, l)], rest)
        | _ => none
      | _ => none
    | _ => none

end

/-- A whole text; none if it does not follow the grammar. -/
def readLiteral? (s : String) : Option Literal :=
  let cs := s.toList
  match literal (2 * cs.length + 2) (skipBlanks cs) with
  | some (l, rest) => if (skipBlanks rest).isEmpty then some l else none
  | none => none

end Json

end ChainReplica
