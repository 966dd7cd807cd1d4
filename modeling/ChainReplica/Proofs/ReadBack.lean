import Mathlib.Tactic.IntervalCases
import ChainReplica.Cache.Record
import ChainReplica.Cache.Store
import ChainReplica.Venue.Counter

/-!
# Reading undoes writing

A document without floating point numbers is read as its own literal from its
text (`Json.readLiteral?_text`). What a codec reads back from a text that it wrote
is therefore a matter of literals only (`Codec.decode?_encode`), and that of a
published snapshot a matter of its block and of the literal of the snapshot
(`Record.decode?_encode`).

The reader is followed on the text of a document with more text behind it. Behind
a value there is a comma or a closing bracket (`Json.Ends`), at which a number
stops; in front of a value there is no white space (`Json.begins`). Fuel is counted
as the reader does it: twice the length of the text is enough.
-/

namespace ChainReplica

namespace Numeral

theorem digits_ne_nil (base n : Nat) : digits base n ≠ [] := by
  rw [digits]
  split <;> simp

theorem head?_digits_append (base n : Nat) (ds : List Nat) :
    (digits base n ++ ds).head? = (digits base n).head? := by
  cases h : digits base n with
  | nil => exact absurd h (digits_ne_nil base n)
  | cons d rest => rfl

theorem digits_of_head_zero {base n : Nat} (h : (digits base n).head? = some 0) :
    digits base n = [0] := by
  induction n using Nat.strongRecOn with
  | _ n ih =>
    rw [digits] at h ⊢
    split
    · rename_i hsmall
      rw [dif_pos hsmall] at h
      obtain rfl : n = 0 := by simpa using h
      rfl
    · rename_i hlarge
      rw [dif_neg hlarge, head?_digits_append] at h
      have hshort := ih _ (Nat.div_lt_self (by omega) (by omega)) h
      have hzero : value base (digits base (n / base)) = value base [0] := by rw [hshort]
      rw [value_digits] at hzero
      simp only [value, List.foldl_cons, List.foldl_nil, Nat.zero_mul, Nat.zero_add,
        Nat.div_eq_zero_iff] at hzero
      omega

end Numeral

namespace Json

open Numeral

/-! ## Numbers -/

/-- What may stand behind a value inside a document. -/
def Ends (rest : List Char) : Prop := ∀ c ∈ rest.head?, c = ',' ∨ c = ']' ∨ c = '\x7d'

theorem takeDigits_of_ends {rest : List Char} (h : Ends rest) : takeDigits rest = ([], rest) := by
  cases rest with
  | nil => rfl
  | cons c cs =>
      rcases h c rfl with rfl | rfl | rfl <;> rfl

theorem takeDigits_digits {rest : List Char} (hrest : Ends rest) : ∀ {ds : List Nat},
    (∀ d ∈ ds, d < 10) → takeDigits (ds.map Nat.digitChar ++ rest) = (ds, rest)
  | [], _ => takeDigits_of_ends hrest
  | d :: ds, h => by
      obtain ⟨hd, hds⟩ := List.forall_mem_cons.mp h
      rw [List.map_cons, List.cons_append, takeDigits, digitBelow?_digitChar hd (by decide),
        takeDigits_digits hrest hds]

theorem takePlaces_of_ends {rest : List Char} (h : Ends rest) :
    takePlaces rest = some ([], rest) := by
  cases rest with
  | nil => rfl
  | cons c cs =>
      rcases h c rfl with rfl | rfl | rfl <;> rfl

theorem takeExponent_of_ends {rest : List Char} (h : Ends rest) :
    takeExponent rest = some (none, rest) := by
  cases rest with
  | nil => rfl
  | cons c cs =>
      rcases h c rfl with rfl | rfl | rfl <;> rfl

/-- The literal of a natural number with a sign. -/
def Literal.ofDigits (negative : Bool) (n : Nat) : Literal :=
  .number ⟨negative, digits 10 n, [], none⟩

theorem numberBody_text {rest : List Char} (hrest : Ends rest) (negative : Bool) (n : Nat) :
    numberBody negative (text 10 n ++ rest) = some (.ofDigits negative n, rest) := by
  have hsmall : ∀ d ∈ digits 10 n, d < 10 := fun d => lt_of_mem_digits (by decide)
  have hlead : ((digits 10 n).isEmpty
      || ((digits 10 n).head? == some 0 && (digits 10 n).length != 1)) = false := by
    rw [List.isEmpty_eq_false_iff.mpr (digits_ne_nil _ _), Bool.false_or]
    by_cases hzero : (digits 10 n).head? = some 0
    · rw [digits_of_head_zero hzero]
      rfl
    · rw [beq_eq_false_iff_ne.mpr hzero, Bool.false_and]
  rw [numberBody, text, takeDigits_digits hrest hsmall]
  simp [hlead, takePlaces_of_ends hrest, takeExponent_of_ends hrest, Literal.ofDigits]

theorem literal_digit {d : Nat} (hd : d < 10) (fuel : Nat) (cs : List Char) :
    literal (fuel + 1) (Nat.digitChar d :: cs) = numberBody false (Nat.digitChar d :: cs) := by
  interval_cases d <;> rfl

/-! ## Strings -/

/-- A piece before those of the rest. -/
def before (p : Piece) (rest : Option (List Piece × List Char)) :
    Option (List Piece × List Char) :=
  rest.map fun (ps, cs) => (p :: ps, cs)

theorem bind_before (p : Piece) (rest : Option (List Piece × List Char)) :
    (rest.bind fun q => some (p :: q.1, q.2)) = before p rest := by
  cases rest <;> rfl

theorem pieces_short {e c : Char} (h : shortEscape? e = some c) (rest : List Char) :
    pieces ('\\' :: e :: rest) = before (.char c) (pieces rest) := by
  have hcode : e ≠ 'u' := by
    rintro rfl
    cases h
  simp [pieces, hcode, h, bind_before]

theorem pieces_code {unit : Nat} (h : unit < 32) (rest : List Char) :
    pieces ('\\' :: 'u' :: '0' :: '0' :: Nat.digitChar (unit / 16) :: Nat.digitChar (unit % 16)
      :: rest) = before (.char (Char.ofNat unit)) (pieces rest) := by
  have hread : read? 16 ['0', '0', Nat.digitChar (unit / 16), Nat.digitChar (unit % 16)]
      = some unit := by
    have hzero : digitBelow? 16 '0' = some 0 := rfl
    simp [read?, hzero, digitBelow?_digitChar (show unit / 16 < 16 by omega),
      digitBelow?_digitChar (show unit % 16 < 16 by omega), value]
    omega
  have hunit : Piece.ofUnit unit = .char (Char.ofNat unit) := by
    have hhigh : isHighHalf unit = false := by simp [isHighHalf]; omega
    have hlow : isLowHalf unit = false := by simp [isLowHalf]; omega
    simp [Piece.ofUnit, hhigh, hlow]
  rw [pieces, hread]
  simp only [Option.bind_eq_bind, Option.bind_some, hunit]
  exact bind_before _ _

theorem pieces_plain {c : Char} (hcontrol : ¬c.toNat < 32) (hquote : c ≠ '"')
    (hslash : c ≠ '\\') (rest : List Char) :
    pieces (c :: rest) = before (.char c) (pieces rest) := by
  rw [pieces.eq_def]
  split <;> simp_all [bind_before]

theorem pieces_escape (c : Char) (rest : List Char) :
    pieces (escape c ++ rest) = before (.char c) (pieces rest) := by
  have hshort : ∀ {e : Char}, shortEscape? e = some (Char.ofNat c.toNat) →
      pieces ('\\' :: e :: rest) = before (.char c) (pieces rest) := by
    intro e h
    rw [Char.ofNat_toNat] at h
    exact pieces_short h rest
  rw [escape]
  split
  · rename_i hc
    subst hc
    exact pieces_short rfl rest
  split
  · rename_i hc
    subst hc
    exact pieces_short rfl rest
  split
  · rename_i hc
    exact hshort (by rw [hc]; rfl)
  split
  · rename_i hc
    exact hshort (by rw [hc]; rfl)
  split
  · rename_i hc
    exact hshort (by rw [hc]; rfl)
  split
  · rename_i hc
    exact hshort (by rw [hc]; rfl)
  split
  · rename_i hc
    exact hshort (by rw [hc]; rfl)
  split
  · rename_i hc
    have hcode := pieces_code hc rest
    rw [Char.ofNat_toNat] at hcode
    exact hcode
  · exact pieces_plain ‹_› ‹_› ‹_› rest

theorem pieces_quoted (rest : List Char) : ∀ cs : List Char,
    pieces (cs.flatMap escape ++ '"' :: rest) = some (cs.map .char, rest)
  | [] => by simp [pieces]
  | c :: cs => by
      rw [List.flatMap_cons, List.append_assoc, pieces_escape, pieces_quoted rest cs]
      rfl

theorem joinHalves_chars : ∀ cs : List Char, joinHalves (cs.map .char) = some cs
  | [] => rfl
  | c :: cs => by
      rw [List.map_cons, joinHalves, joinHalves_chars cs]
      rfl

/-- A string is read up to its closing quote. -/
theorem stringBody_quoted (s : String) (rest : List Char) :
    stringBody (s.toList.flatMap escape ++ '"' :: rest) = some (some s, rest) := by
  simp [stringBody, pieces_quoted, joinHalves_chars]

/-! ## Documents -/

mutual

/-- What the text of a document says, if no floating point number is in it. -/
def Value.literal : Value → Literal
  | .null => .null
  | .bool b => .bool b
  | .number (.natural n) => .ofDigits false n
  | .number (.negative n) => .ofDigits true (n + 1)
  | .number (.binary _) => .null
  | .string s => .string (some s)
  | .array items => .array (literals items)
  | .object members => .object (memberLiterals members)

def literals : List Value → List Literal
  | [] => []
  | v :: rest => v.literal :: literals rest

def memberLiterals : List (String × Value) → List (Option String × Literal)
  | [] => []
  | (key, v) :: rest => (some key, v.literal) :: memberLiterals rest

end

mutual

/-- Whether no floating point number is in a document. -/
def Value.exact : Value → Bool
  | .number (.binary _) => false
  | .array items => exactItems items
  | .object members => exactMembers members
  | _ => true

def exactItems : List Value → Bool
  | [] => true
  | v :: rest => v.exact && exactItems rest

def exactMembers : List (String × Value) → Bool
  | [] => true
  | (_, v) :: rest => v.exact && exactMembers rest

end

/-- Whether a character may begin a document. -/
def begins (c : Char) : Bool := c ∉ [' ', '\n', '\t', '\r', ']', '\x7d', ',', ':']

theorem text_cons (n : Nat) : ∃ d cs, d < 10 ∧ text 10 n = Nat.digitChar d :: cs := by
  rw [text]
  cases h : digits 10 n with
  | nil => exact absurd h (digits_ne_nil 10 n)
  | cons d rest =>
      exact ⟨d, _, lt_of_mem_digits (by decide) (h ▸ List.mem_cons_self), rfl⟩

theorem begins_digit : ∀ d < 10, begins (Nat.digitChar d) = true := by decide

theorem render_cons {v : Value} (h : v.exact = true) :
    ∃ c cs, v.render = c :: cs ∧ begins c = true := by
  cases v with
  | null => exact ⟨_, _, rfl, rfl⟩
  | bool b => cases b <;> exact ⟨_, _, rfl, rfl⟩
  | string s => exact ⟨_, _, rfl, rfl⟩
  | array items => exact ⟨_, _, rfl, rfl⟩
  | object members => exact ⟨_, _, rfl, rfl⟩
  | number n =>
      cases n with
      | natural n =>
          obtain ⟨d, cs, hd, htext⟩ := text_cons n
          exact ⟨_, _, htext, begins_digit d hd⟩
      | negative n => exact ⟨_, _, rfl, rfl⟩
      | binary bits => cases h

theorem skipBlanks_begins {c : Char} (h : begins c = true) (cs : List Char) :
    skipBlanks (c :: cs) = c :: cs := by
  refine List.dropWhile_cons_of_neg ?_
  simp_all [begins]

theorem skipBlanks_render {v : Value} (h : v.exact = true) (rest : List Char) :
    skipBlanks (v.render ++ rest) = v.render ++ rest := by
  obtain ⟨c, cs, hrender, hc⟩ := render_cons h
  rw [hrender]
  exact skipBlanks_begins hc _

theorem renderItems_cons {v : Value} {vs : List Value} (h : exactItems (v :: vs) = true) :
    ∃ c cs, Value.renderItems (v :: vs) = c :: cs ∧ begins c = true := by
  have hv : v.exact = true := by
    rw [exactItems, Bool.and_eq_true] at h
    exact h.1
  obtain ⟨c, cs, hrender, hc⟩ := render_cons hv
  cases vs with
  | nil => exact ⟨c, cs, hrender, hc⟩
  | cons w vs => exact ⟨c, _, by rw [Value.renderItems, hrender, List.cons_append], hc⟩

theorem renderMembers_cons (key : String) (v : Value) (ms : List (String × Value)) :
    ∃ cs, Value.renderMembers ((key, v) :: ms) = '"' :: cs := by
  cases ms with
  | nil => exact ⟨_, rfl⟩
  | cons m ms => exact ⟨_, rfl⟩

theorem skipBlanks_quote (cs : List Char) : skipBlanks ('"' :: cs) = '"' :: cs := rfl

theorem skipBlanks_colon (cs : List Char) : skipBlanks (':' :: cs) = ':' :: cs := rfl

theorem skipBlanks_comma (cs : List Char) : skipBlanks (',' :: cs) = ',' :: cs := rfl

theorem skipBlanks_brace (cs : List Char) : skipBlanks ('\x7d' :: cs) = '\x7d' :: cs := rfl

theorem ends_comma (cs : List Char) : Ends (',' :: cs) := by simp [Ends]

theorem ends_bracket (cs : List Char) : Ends (']' :: cs) := by simp [Ends]

theorem ends_brace (cs : List Char) : Ends ('\x7d' :: cs) := by simp [Ends]

mutual

/-- Reading a document undoes writing it. -/
theorem literal_render : ∀ (v : Value) (fuel : Nat) (rest : List Char), v.exact = true →
    2 * v.render.length ≤ fuel → Ends rest →
      literal fuel (v.render ++ rest) = some (v.literal, rest)
  | .null, fuel + 1, rest, _, _, _ => rfl
  | .bool true, fuel + 1, rest, _, _, _ => rfl
  | .bool false, fuel + 1, rest, _, _, _ => rfl
  | .string s, fuel + 1, rest, _, _, _ => by
      simp [Value.render, quote, literal, stringBody_quoted, Value.literal]
  | .number (.natural n), fuel + 1, rest, _, _, hrest => by
      obtain ⟨d, cs, hd, htext⟩ := text_cons n
      rw [Value.render, Number.render, htext, List.cons_append, literal_digit hd,
        ← List.cons_append, ← htext, numberBody_text hrest, Value.literal]
  | .number (.negative n), fuel + 1, rest, _, _, hrest => by
      change numberBody true (text 10 (n + 1) ++ rest) = _
      rw [numberBody_text hrest, Value.literal]
  | .array [], fuel + 1, rest, _, _, _ => rfl
  | .array (v :: vs), fuel + 1, rest, h, hfuel, _ => by
      have hitems := items_render v vs fuel rest h (by
        simp only [Value.render, List.length_cons, List.length_append] at hfuel
        omega)
      obtain ⟨c, cs, hfirst, hc⟩ := renderItems_cons (show exactItems (v :: vs) = true from h)
      have hclose : c ≠ ']' := by
        rintro rfl
        cases hc
      rw [Value.render, List.cons_append, List.append_assoc, List.singleton_append, literal,
        hfirst, List.cons_append, skipBlanks_begins hc]
      rw [hfirst, List.cons_append] at hitems
      simp [hclose, hitems, Value.literal]
  | .object [], fuel + 1, rest, _, _, _ => rfl
  | .object ((key, v) :: ms), fuel + 1, rest, h, hfuel, _ => by
      have hmembers := members_render key v ms fuel rest h (by
        simp only [Value.render, List.length_cons, List.length_append] at hfuel
        omega)
      obtain ⟨cs, hfirst⟩ := renderMembers_cons key v ms
      rw [Value.render, List.cons_append, List.append_assoc, List.singleton_append, literal,
        hfirst, List.cons_append, skipBlanks_begins rfl]
      rw [hfirst, List.cons_append] at hmembers
      simp [hmembers, Value.literal]
  | v, 0, rest, h, hfuel, _ => by
      obtain ⟨c, cs, hrender, -⟩ := render_cons h
      rw [hrender] at hfuel
      cases hfuel

theorem items_render : ∀ (v : Value) (vs : List Value) (fuel : Nat) (rest : List Char),
    exactItems (v :: vs) = true → 2 * (Value.renderItems (v :: vs)).length < fuel →
      items fuel (Value.renderItems (v :: vs) ++ ']' :: rest) = some (literals (v :: vs), rest)
  | v, [], fuel + 1, rest, h, hfuel => by
      have hv : v.exact = true := by simpa [exactItems] using h
      rw [Value.renderItems] at hfuel ⊢
      rw [items, skipBlanks_render hv, literal_render v fuel _ hv (by omega) (ends_bracket rest)]
      rfl
  | v, w :: vs, fuel + 1, rest, h, hfuel => by
      have hboth : v.exact = true ∧ exactItems (w :: vs) = true := by
        rwa [exactItems, Bool.and_eq_true] at h
      simp only [Value.renderItems, List.length_append, List.length_cons] at hfuel
      rw [Value.renderItems, List.append_assoc, List.cons_append, items,
        skipBlanks_render hboth.1, literal_render v fuel _ hboth.1 (by omega) (ends_comma _)]
      have hrest := items_render w vs fuel rest hboth.2 (by omega)
      simp [skipBlanks_comma, hrest, literals]

theorem members_render : ∀ (key : String) (v : Value) (ms : List (String × Value)) (fuel : Nat)
    (rest : List Char), exactMembers ((key, v) :: ms) = true →
      2 * (Value.renderMembers ((key, v) :: ms)).length < fuel →
        members fuel (Value.renderMembers ((key, v) :: ms) ++ '\x7d' :: rest) =
          some (memberLiterals ((key, v) :: ms), rest)
  | key, v, [], fuel + 1, rest, h, hfuel => by
      have hv : v.exact = true := by simpa [exactMembers] using h
      simp only [Value.renderMembers, quote, List.length_append, List.length_cons] at hfuel
      have hread := literal_render v fuel ('\x7d' :: rest) hv (by omega) (ends_brace rest)
      simp only [Value.renderMembers, quote, List.cons_append, List.append_assoc,
        List.nil_append, members, skipBlanks_quote, stringBody_quoted]
      simp [skipBlanks_colon, skipBlanks_render hv, hread, skipBlanks_brace, memberLiterals]
  | key, v, (key', w) :: ms, fuel + 1, rest, h, hfuel => by
      have hboth : v.exact = true ∧ exactMembers ((key', w) :: ms) = true := by
        rwa [exactMembers, Bool.and_eq_true] at h
      simp only [Value.renderMembers, quote, List.length_append, List.length_cons] at hfuel
      have hread := fun cs => literal_render v fuel (',' :: cs) hboth.1 (by omega) (ends_comma cs)
      have hrest := members_render key' w ms fuel rest hboth.2 (by omega)
      simp only [Value.renderMembers, quote, List.cons_append, List.append_assoc,
        List.nil_append, members, skipBlanks_quote, stringBody_quoted]
      simp [skipBlanks_colon, skipBlanks_render hboth.1, hread, skipBlanks_comma, hrest,
        memberLiterals]

end

/-- A whole text. -/
theorem readLiteral?_text {v : Value} (h : v.exact = true) :
    readLiteral? v.text = some v.literal := by
  have hends : Ends [] := nofun
  have hread := literal_render v (2 * v.render.length + 2) [] h (Nat.le_add_right _ _) hends
  have hblanks := skipBlanks_render h []
  rw [List.append_nil] at hread hblanks
  rw [readLiteral?, Value.text, String.toList_ofList, hblanks]
  simp [hread, skipBlanks]

end Json

/-! ## Data -/

/-- Reading the written form of data is a matter of its literal. -/
theorem Codec.decode?_encode {α : Type} (c : Codec α) {x : α} (h : (c.write x).exact = true) :
    c.decode? (c.encode x) = c.read? (c.write x).literal := by
  rw [decode?, encode, Json.readLiteral?_text h, Option.bind_some]

theorem Json.count?_literal {n : Nat} :
    (Value.count n).literal.count? = if n < Numeral.countLimit then some n else none := by
  simp [Value.count, Value.literal, Literal.ofDigits, Literal.count?, Written.count?,
    Written.plain, Numeral.value_digits, Option.filter_some]

theorem Json.field₁?_object {α : Type} (name : String) (read? : Literal → Option α)
    (l : Literal) : (Literal.object [(some name, l)]).field₁? name read? = read? l := by
  simp [Literal.field₁?, Literal.fields?, Literal.wellKeyed]

theorem Json.field₂?_object {α β : Type} {name name' : String} (h : name ≠ name')
    (read? : Literal → Option α) (read?' : Literal → Option β) (l l' : Literal) :
    (Literal.object [(some name, l), (some name', l')]).field₂? (name, read?) (name', read?') =
      (read? l).bind fun x => (read?' l').map (x, ·) := by
  have hfields : (Literal.object [(some name, l), (some name', l')]).fields? [name, name'] =
      some [some l, some l'] := by
    simp [Literal.fields?, Literal.wellKeyed, h, h.symm]
  rw [Literal.field₂?, hfields]
  dsimp only
  cases read? l with
  | none => rfl
  | some x => cases read?' l' <;> rfl

/-! ## Counts on their own -/

theorem trimWhere_of_none {drop : Char → Bool} {cs : List Char} (h : ∀ c ∈ cs, drop c = false) :
    trimWhere drop cs = cs := by
  have hkept : ∀ {cs : List Char}, (∀ c ∈ cs, drop c = false) → cs.dropWhile drop = cs := by
    intro cs h
    cases cs with
    | nil => rfl
    | cons c rest => exact List.dropWhile_cons_of_neg (by simp [h c List.mem_cons_self])
  rw [trimWhere, hkept h, hkept (fun c hc => h c (List.mem_reverse.mp hc)), List.reverse_reverse]

theorem Numeral.readCount?_decimal {n : Nat} (h : n < countLimit) :
    readCount? (decimal n) = some n := by
  obtain ⟨d, cs, hd, htext⟩ := Json.text_cons n
  have hplus : ∀ d < 10, Nat.digitChar d ≠ '+' := by decide
  have hread := read?_text n (show 2 ≤ 10 by decide) (by decide)
  rw [htext] at hread
  rw [readCount?, decimal, String.toList_ofList, htext]
  split
  · rename_i rest heq
    exact absurd (List.cons.inj heq).1 (hplus d hd)
  · simp [hread, h]

theorem Store.readLatest?_latestText {n : Nat} (h : n < Numeral.countLimit) :
    readLatest? (latestText n) = some n := by
  have hdigit : ∀ d < 10, isBlank (Nat.digitChar d) = false := by decide
  have hblank : ∀ c ∈ Numeral.text 10 n, isBlank c = false := by
    intro c hc
    obtain ⟨d, hd, rfl⟩ := List.mem_map.mp hc
    exact hdigit d (Numeral.lt_of_mem_digits (by decide) hd)
  have htrim : trimBlank (latestText n) = latestText n := by
    rw [trimBlank, latestText, Numeral.decimal, String.toList_ofList, trimWhere_of_none hblank]
  rw [readLatest?, htrim, latestText, Numeral.readCount?_decimal h]

/-! ## Records -/

namespace Record

variable {S : Type}

theorem decode_toOption (c : Codec S) (text : String) :
    (decode c text).toOption = (codec c).decode? text := by
  rw [decode]
  cases (codec c).decode? text <;> rfl

theorem decode_eq_ok {c : Codec S} {text : String} {r : Record S} :
    decode c text = .ok r ↔ (codec c).decode? text = some r := by
  rw [decode]
  cases (codec c).decode? text <;> simp

/-- A record is read as its block and what its snapshot is read as. -/
theorem decode?_encode (c : Codec S) {r : Record S} (h : (c.write r.snapshot).exact = true) :
    (codec c).decode? (encode c r) =
      if r.block < Numeral.countLimit then
        (c.read? (c.write r.snapshot).literal).map (⟨r.block, ·⟩)
      else none := by
  have hexact : ((codec c).write r).exact = true := by
    simp [codec, Json.Value.record, Json.Value.exact, Json.exactMembers, Json.Value.count, h]
  have hread : (codec c).read? ((codec c).write r).literal =
      ((Json.Value.count r.block).literal.count?.bind fun block =>
        (c.read? (c.write r.snapshot).literal).map (⟨block, ·⟩)) := by
    simp only [codec, Json.Value.record, Json.Value.literal, Json.memberLiterals,
      Json.field₂?_object (show "blockNumber" ≠ "snapshot" by decide)]
    cases (Json.Value.count r.block).literal.count? with
    | none => rfl
    | some block => cases c.read? (c.write r.snapshot).literal <;> rfl
  rw [encode, Codec.decode?_encode _ hexact, hread, Json.count?_literal]
  split <;> rfl

end Record

namespace Counter

theorem exact_write (x : Counter) : (codec.write x).exact = true := rfl

theorem read?_write (x : Counter) : codec.read? (codec.write x).literal =
    if x.count < Numeral.countLimit then some x else none := by
  have hread : codec.read? (codec.write x).literal =
      (Json.Value.count x.count).literal.count?.map (⟨·⟩) := by
    simp only [codec, Json.Value.record, Json.Value.literal, Json.memberLiterals,
      Json.field₁?_object]
  rw [hread, Json.count?_literal]
  split <;> rfl

/-- The records of counts are read back. -/
theorem record_faithful : (Record.codec codec).Faithful fun r =>
    r.block < Numeral.countLimit ∧ r.snapshot.count < Numeral.countLimit := by
  rintro ⟨block, x⟩ ⟨hblock, hcount⟩
  have hdecode := Record.decode?_encode codec (r := ⟨block, x⟩) (exact_write x)
  rw [if_pos hblock, read?_write, if_pos hcount] at hdecode
  exact hdecode

end Counter

end ChainReplica
