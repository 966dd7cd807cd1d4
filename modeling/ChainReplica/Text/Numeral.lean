/-!
# Positional numerals

Natural numbers as digits to a base, and the texts made of them. `value` undoes
`digits` (`value_digits`) and `read?` undoes `text` (`read?_text`); everything in
this library that writes or reads a number goes through them.

- A *count* is an unsigned 64-bit number in decimal, with an optional plus
  sign when it is read (`readCount?`).
- A *word* is an unsigned 256-bit number, written in hexadecimal without
  leading zeros behind `0x` (`writeWord`), and read in four bases
  (`readWord?`).
-/

namespace ChainReplica

namespace Numeral

/-! ## Digits and values -/

/-- The digits of `n` to the base, most significant first, without leading zeros. -/
def digits (base n : Nat) : List Nat :=
  if _ : n < base ∨ base < 2 then [n]
  else digits base (n / base) ++ [n % base]
termination_by n
decreasing_by exact Nat.div_lt_self (by omega) (by omega)

/-- The number that a list of digits denotes. -/
def value (base : Nat) (ds : List Nat) : Nat := ds.foldl (fun acc d => acc * base + d) 0

theorem value_append_singleton (base : Nat) (ds : List Nat) (d : Nat) :
    value base (ds ++ [d]) = value base ds * base + d := by
  simp [value]

theorem value_digits (base n : Nat) : value base (digits base n) = n := by
  induction n using Nat.strongRecOn with
  | _ n ih =>
    rw [digits]
    split
    · simp [value]
    · rename_i h
      rw [value_append_singleton, ih _ (Nat.div_lt_self (by omega) (by omega)), Nat.mul_comm]
      exact Nat.div_add_mod n base

theorem lt_of_mem_digits {base n d : Nat} (hbase : 2 ≤ base) (h : d ∈ digits base n) :
    d < base := by
  induction n using Nat.strongRecOn with
  | _ n ih =>
    rw [digits] at h
    split at h
    · rename_i hn
      rcases List.mem_singleton.1 h with rfl
      omega
    · rename_i hn
      rcases List.mem_append.1 h with h | h
      · exact ih _ (Nat.div_lt_self (by omega) (by omega)) h
      · rcases List.mem_singleton.1 h with rfl
        exact Nat.mod_lt _ (by omega)

/-! ## Digit characters -/

/-- The value of a digit: `0` to `9`, then the letters in either case. -/
def digitValue? (c : Char) : Option Nat :=
  if '0' ≤ c ∧ c ≤ '9' then some (c.toNat - '0'.toNat)
  else if 'a' ≤ c ∧ c ≤ 'z' then some (c.toNat - 'a'.toNat + 10)
  else if 'A' ≤ c ∧ c ≤ 'Z' then some (c.toNat - 'A'.toNat + 10)
  else none

def digitBelow? (base : Nat) (c : Char) : Option Nat :=
  (digitValue? c).filter (· < base)

/-- The text of a number to a base up to sixteen, in lower case. -/
def text (base n : Nat) : List Char := (digits base n).map Nat.digitChar

/-- The number that a list of digit characters denotes; none if there is a
character that is no digit of the base. -/
def read? (base : Nat) (cs : List Char) : Option Nat :=
  (cs.mapM (digitBelow? base)).map (value base)

theorem digitBelow?_digitChar {base d : Nat} (hd : d < base) (hbase : base ≤ 16) :
    digitBelow? base (Nat.digitChar d) = some d := by
  have key : ∀ d < 16, digitValue? (Nat.digitChar d) = some d := by decide
  simp [digitBelow?, key d (by omega), hd]

/-- Reading undoes writing. -/
theorem read?_text {base : Nat} (n : Nat) (hlow : 2 ≤ base) (hhigh : base ≤ 16) :
    read? base (text base n) = some n := by
  have all : ∀ ds : List Nat, (∀ d ∈ ds, d < base) →
      (ds.map Nat.digitChar).mapM (digitBelow? base) = some ds := by
    intro ds
    induction ds with
    | nil => intro _; rfl
    | cons d rest ih =>
      intro h
      obtain ⟨hd, hrest⟩ := List.forall_mem_cons.1 h
      simp [digitBelow?_digitChar hd hhigh, ih hrest]
  simp [read?, text, all _ fun d => lt_of_mem_digits hlow, value_digits]

def decimal (n : Nat) : String := String.ofList (text 10 n)

/-! ## Counts -/

/-- How many values a count has. -/
def countLimit : Nat := 0x10000000000000000

/-- At least one decimal digit, behind an optional plus sign, with a value
that fits a count. -/
def readCount? (s : String) : Option Nat :=
  let body := match s.toList with
    | '+' :: rest => rest
    | cs => cs
  if body.isEmpty then none else (read? 10 body).filter (· < countLimit)

/-! ## Words -/

def wordLimit : Nat := Nat.pow 2 256

/-- The base that a text announces by its first two characters, and the rest. -/
def splitBase : List Char → Nat × List Char
  | '0' :: 'x' :: rest => (16, rest)
  | '0' :: 'X' :: rest => (16, rest)
  | '0' :: 'o' :: rest => (8, rest)
  | '0' :: 'O' :: rest => (8, rest)
  | '0' :: 'b' :: rest => (2, rest)
  | '0' :: 'B' :: rest => (2, rest)
  | cs => (10, cs)

/-- Reads a word in the base that its first two characters announce, decimal
without them. Underscores are ignored, and no digit at all means zero. -/
def readWord? (s : String) : Option Nat :=
  let (base, body) := splitBase s.toList
  (read? base (body.filter (· != '_'))).filter (· < wordLimit)

/-- Hexadecimal without leading zeros. -/
def writeWord (n : Nat) : String := String.ofList ('0' :: 'x' :: text 16 n)

end Numeral

end ChainReplica
