import Mathlib.Data.String.Basic
import ChainReplica.Proofs.ReadBack

/-!
# Any document from its own literal

Where any document will do, a document is what its literal says, if it is nested less
than the limit and no object in it begins with the key that is set aside for documents
carried as text, and only then (`Literal.value?_literal_iff`). An object that begins
with this key never comes back, because what a carried text says is no object with this
key alone (`Literal.unmarking_carriedValue`).

The keys of an object ascend. Then the members come back in their places: those that
were read have the same keys, and sorting moves none of them.
-/

namespace ChainReplica

namespace Json

/-! ## Documents as they are held -/

mutual

/-- Whether a document has integers of 64 bits for its numbers and objects with
ascending keys, each key once. -/
def Value.sound : Value → Bool
  | .number (.natural n) => n < Numeral.countLimit
  | .number (.negative n) => n < Binary.signBit
  | .number (.binary _) => false
  | .array items => soundItems items
  | .object members => decide ((members.map (·.1)).Pairwise (· < ·)) && soundMembers members
  | _ => true

def soundItems : List Value → Bool
  | [] => true
  | v :: rest => v.sound && soundItems rest

def soundMembers : List (String × Value) → Bool
  | [] => true
  | (_, v) :: rest => v.sound && soundMembers rest

end

mutual

/-- How many arrays and objects of a document stand inside each other. -/
def Value.height : Value → Nat
  | .array items => itemsHeight items + 1
  | .object members => membersHeight members + 1
  | _ => 0

def itemsHeight : List Value → Nat
  | [] => 0
  | v :: rest => max v.height (itemsHeight rest)

def membersHeight : List (String × Value) → Nat
  | [] => 0
  | (_, v) :: rest => max v.height (membersHeight rest)

end

mutual

/-- Whether no object of a document begins with the key of carried documents. -/
def Value.unmarked : Value → Bool
  | .array items => unmarkedItems items
  | .object members => (members.map (·.1)).head? != some carriedKey && unmarkedMembers members
  | _ => true

def unmarkedItems : List Value → Bool
  | [] => true
  | v :: rest => v.unmarked && unmarkedItems rest

def unmarkedMembers : List (String × Value) → Bool
  | [] => true
  | (_, v) :: rest => v.unmarked && unmarkedMembers rest

end

mutual

theorem Value.exact_of_sound : ∀ v : Value, v.sound = true → v.exact = true
  | .null, _ => rfl
  | .bool _, _ => rfl
  | .string _, _ => rfl
  | .number (.natural _), _ => rfl
  | .number (.negative _), _ => rfl
  | .array items, h => exactItems_of_sound items h
  | .object members, h => exactMembers_of_sound members (Bool.and_eq_true_iff.mp h).2

theorem exactItems_of_sound : ∀ items : List Value,
    soundItems items = true → exactItems items = true
  | [], _ => rfl
  | v :: rest, h => by
      obtain ⟨hv, hrest⟩ := Bool.and_eq_true_iff.mp h
      rw [exactItems, v.exact_of_sound hv, exactItems_of_sound rest hrest, Bool.and_self]

theorem exactMembers_of_sound : ∀ members : List (String × Value),
    soundMembers members = true → exactMembers members = true
  | [], _ => rfl
  | (_, v) :: rest, h => by
      obtain ⟨hv, hrest⟩ := Bool.and_eq_true_iff.mp h
      rw [exactMembers, v.exact_of_sound hv, exactMembers_of_sound rest hrest, Bool.and_self]

end

/-! ## Members by key -/

theorem insertMember_of_above {key : String} (v : Value) : ∀ {ms : List (String × Value)},
    (∀ m ∈ ms, m.1 < key) → insertMember key v ms = ms ++ [(key, v)]
  | [], _ => rfl
  | (k, w) :: rest, h => by
      obtain ⟨hk, hrest⟩ := List.forall_mem_cons.mp h
      rw [insertMember, if_neg (lt_asymm hk), if_neg (ne_of_gt hk), insertMember_of_above v hrest,
        List.cons_append]

theorem foldl_insertMember_of_ascending : ∀ ms acc : List (String × Value),
    ((acc ++ ms).map (·.1)).Pairwise (· < ·) →
      ms.foldl (fun acc m => insertMember m.1 m.2 acc) acc = acc ++ ms
  | [], acc, _ => (List.append_nil acc).symm
  | m :: rest, acc, h => by
      have hbelow : ∀ a ∈ acc, a.1 < m.1 := fun a ha => by
        rw [List.map_append, List.pairwise_append] at h
        exact h.2.2 a.1 (List.mem_map_of_mem ha) m.1 List.mem_cons_self
      rw [List.append_cons] at h ⊢
      rw [List.foldl_cons, insertMember_of_above m.2 hbelow]
      exact foldl_insertMember_of_ascending rest _ h

theorem sortedMembers_of_ascending {ms : List (String × Value)}
    (h : (ms.map (·.1)).Pairwise (· < ·)) : sortedMembers ms = ms :=
  foldl_insertMember_of_ascending ms [] h

theorem mem_insertMember_keys {key k : String} (v : Value) (ms : List (String × Value)) :
    k ∈ (insertMember key v ms).map (·.1) ↔ k = key ∨ k ∈ ms.map (·.1) := by
  induction ms with
  | nil => simp [insertMember]
  | cons m rest ih =>
      rw [insertMember]
      split
      · simp
      split
      · rename_i hkey
        simp [hkey]
      · simp only [List.map_cons, List.mem_cons, ih]
        tauto

theorem mem_foldl_insertMember_keys {k : String} : ∀ ms acc : List (String × Value),
    k ∈ (ms.foldl (fun acc m => insertMember m.1 m.2 acc) acc).map (·.1) ↔
      k ∈ ms.map (·.1) ∨ k ∈ acc.map (·.1)
  | [], acc => by simp
  | m :: rest, acc => by
      rw [List.foldl_cons, mem_foldl_insertMember_keys rest, mem_insertMember_keys, List.map_cons,
        List.mem_cons]
      tauto

/-- Sorting loses no key. -/
theorem mem_sortedMembers_keys {k : String} {ms : List (String × Value)} :
    k ∈ (sortedMembers ms).map (·.1) ↔ k ∈ ms.map (·.1) := by
  rw [sortedMembers, mem_foldl_insertMember_keys]
  simp

namespace Literal

/-! ## What comes of an object -/

/-- No carried text says an object with the key of carried documents alone. -/
def Unmarking (carried : String → Option Value) : Prop :=
  ∀ text w, carried text ≠ some (.object [(carriedKey, w)])

section

variable {carried : String → Option Value}

theorem membersWith_keys {depth : Nat} : ∀ {members : List (Option String × Literal)}
    {ms : List (String × Value)}, membersWith carried depth members = some ms →
      members.map (·.1) = (ms.map (·.1)).map some
  | [], ms, h => by
      rw [membersWith] at h
      cases h
      rfl
  | (key, l) :: rest, ms, h => by
      simp only [membersWith, Option.bind_eq_bind, Option.bind_eq_some_iff] at h
      obtain ⟨k, rfl, v, -, vs, hrest, heq⟩ := h
      cases heq
      rw [List.map_cons, membersWith_keys hrest, List.map_cons, List.map_cons]

/-- An object that begins with the key of carried documents has no other member, and
says what a carried text says. -/
theorem valueWith_marked {depth : Nat} {l : Literal} {rest : List (Option String × Literal)}
    {v : Value}
    (h : valueWith carried depth (.object ((some carriedKey, l) :: rest)) = some v) :
    rest = [] ∧ ∃ text, carried text = some v := by
  rcases depth with _ | _ | below
  · cases h
  · cases h
  · rw [valueWith.eq_def] at h
    dsimp only at h
    rw [if_pos rfl] at h
    split at h
    · exact ⟨rfl, _, h⟩
    · cases h

theorem valueWith_unmarked {below : Nat} {members : List (Option String × Literal)}
    (h : (members.map (·.1)).head? ≠ some (some carriedKey)) :
    valueWith carried (below + 2) (.object members) =
      (membersWith carried (below + 1) members).map fun ms => .object (sortedMembers ms) := by
  cases members with
  | nil => rfl
  | cons m rest =>
      have hkey : m.1 ≠ some carriedKey := fun hm => h (by rw [List.map_cons, hm, List.head?_cons])
      rw [valueWith.eq_def]
      exact if_neg hkey

/-- Nothing but an object says an object. -/
theorem eq_object_of_valueWith {depth : Nat} {l : Literal} {ms : List (String × Value)}
    (h : l.valueWith carried depth = some (.object ms)) :
    ∃ below members, depth = below + 2 ∧ l = .object members := by
  cases l with
  | null => cases h
  | bool b => cases h
  | number n =>
      obtain ⟨_, -, h⟩ := Option.map_eq_some_iff.mp h
      cases h
  | string s =>
      obtain ⟨_, -, h⟩ := Option.map_eq_some_iff.mp h
      cases h
  | array items =>
      rcases depth with _ | _ | below
      · cases h
      · cases h
      · obtain ⟨_, -, h⟩ := Option.map_eq_some_iff.mp h
        cases h
  | object members =>
      rcases depth with _ | _ | below
      · cases h
      · cases h
      · exact ⟨below, members, rfl, rfl⟩

/-- What a literal says is no object with the key of carried documents alone, unless a
carried text says so. -/
theorem valueWith_ne_marked (hcarried : Unmarking carried) (depth : Nat) (l : Literal)
    (w : Value) : l.valueWith carried depth ≠ some (.object [(carriedKey, w)]) := by
  intro h
  obtain ⟨below, members, rfl, rfl⟩ := eq_object_of_valueWith h
  by_cases hmarked : (members.map (·.1)).head? = some (some carriedKey)
  · cases members with
    | nil => cases hmarked
    | cons m rest =>
        obtain ⟨key, l⟩ := m
        obtain rfl : key = some carriedKey := Option.some.inj hmarked
        obtain ⟨-, text, htext⟩ := valueWith_marked h
        exact hcarried text w htext
  · rw [valueWith_unmarked hmarked] at h
    obtain ⟨ms, hms, h⟩ := Option.map_eq_some_iff.mp h
    have hsorted : sortedMembers ms = [(carriedKey, w)] := by injection h
    -- Sorting has kept the first key, which is another one.
    cases ms with
    | nil => cases hsorted
    | cons m rest =>
        have hmem : m.1 ∈ (sortedMembers (m :: rest)).map (·.1) :=
          mem_sortedMembers_keys.mpr List.mem_cons_self
        rw [hsorted] at hmem
        rw [membersWith_keys hms] at hmarked
        exact hmarked (congrArg some (congrArg some (List.mem_singleton.mp hmem)))

/-! ## A document from its own literal -/

theorem valueWith_natural {n : Nat} (h : n < Numeral.countLimit) (depth : Nat) :
    (ofDigits false n).valueWith carried depth = some (.number (.natural n)) := by
  simp [ofDigits, valueWith, Written.number?, Written.plain, Numeral.value_digits, h]

theorem valueWith_negative {n : Nat} (h : n < Binary.signBit) (depth : Nat) :
    (ofDigits true (n + 1)).valueWith carried depth = some (.number (.negative n)) := by
  have hfits : n + 1 ≤ Binary.signBit := h
  simp [ofDigits, valueWith, Written.number?, Written.plain, Numeral.value_digits, hfits]

theorem memberLiterals_keys : ∀ ms : List (String × Value),
    (memberLiterals ms).map (·.1) = (ms.map (·.1)).map some
  | [] => rfl
  | (key, v) :: rest => by
      rw [memberLiterals, List.map_cons, memberLiterals_keys rest, List.map_cons, List.map_cons]

/-- Members with ascending keys come back if each of them does. -/
theorem valueWith_members {ms : List (String × Value)} {below : Nat}
    (hascending : (ms.map (·.1)).Pairwise (· < ·))
    (hhead : (ms.map (·.1)).head? ≠ some carriedKey) :
    valueWith carried (below + 2) (.object (memberLiterals ms)) = some (.object ms) ↔
      membersWith carried (below + 1) (memberLiterals ms) = some ms := by
  have hunmarked : ((memberLiterals ms).map (·.1)).head? ≠ some (some carriedKey) := by
    rw [memberLiterals_keys]
    cases ms with
    | nil => nofun
    | cons m rest => exact fun h => hhead (Option.some.inj h)
  rw [valueWith_unmarked hunmarked, Option.map_eq_some_iff]
  constructor
  · rintro ⟨vs, hvs, h⟩
    -- The members that were read have the keys of `ms`, so sorting does not move them.
    have hkeys : vs.map (·.1) = ms.map (·.1) :=
      List.map_injective_iff.mpr (Option.some_injective _)
        ((membersWith_keys hvs).symm.trans (memberLiterals_keys ms))
    rw [← hkeys] at hascending
    rw [sortedMembers_of_ascending hascending] at h
    rw [hvs, show vs = ms by injection h]
  · exact fun h => ⟨ms, h, by rw [sortedMembers_of_ascending hascending]⟩

theorem valueWith_members_ne_of_marked (hcarried : Unmarking carried)
    {ms : List (String × Value)} {depth : Nat}
    (hhead : (ms.map (·.1)).head? = some carriedKey) :
    valueWith carried depth (.object (memberLiterals ms)) ≠ some (.object ms) := by
  intro h
  cases ms with
  | nil => cases hhead
  | cons m rest =>
      obtain ⟨key, v⟩ := m
      obtain rfl : key = carriedKey := Option.some.inj hhead
      obtain ⟨halone, text, htext⟩ := valueWith_marked h
      cases rest with
      | nil => exact hcarried text v htext
      | cons m rest => cases halone

mutual

/-- A document is what its literal says if it is nested less than the limit and has no
object that begins with the key of carried documents, and only then. -/
theorem valueWith_literal_iff (hcarried : Unmarking carried) : ∀ (v : Value) (depth : Nat),
    v.sound = true → 0 < depth → (v.literal.valueWith carried depth = some v ↔
      v.unmarked = true ∧ v.height < depth)
  | .null, _, _, hdepth => iff_of_true rfl ⟨rfl, hdepth⟩
  | .bool _, _, _, hdepth => iff_of_true rfl ⟨rfl, hdepth⟩
  | .string _, _, _, hdepth => iff_of_true rfl ⟨rfl, hdepth⟩
  | .number (.natural n), depth, h, hdepth =>
      iff_of_true (valueWith_natural (of_decide_eq_true h) depth) ⟨rfl, hdepth⟩
  | .number (.negative n), depth, h, hdepth =>
      iff_of_true (valueWith_negative (of_decide_eq_true h) depth) ⟨rfl, hdepth⟩
  | .array items, 1, _, _ => iff_of_false nofun fun h => by
      have hheight : itemsHeight items + 1 < 1 := h.2
      omega
  | .array items, below + 2, h, _ => by
      have hitems := valuesWith_literals_iff hcarried items (below + 1) h (Nat.succ_pos below)
      rw [Value.literal, valueWith, Value.unmarked, Value.height, Nat.add_lt_add_iff_right,
        ← hitems, Option.map_eq_some_iff]
      simp
  | .object ms, 1, _, _ => iff_of_false nofun fun h => by
      have hheight : membersHeight ms + 1 < 1 := h.2
      omega
  | .object ms, below + 2, h, _ => by
      obtain ⟨hascending, hsound⟩ := Bool.and_eq_true_iff.mp h
      have hascending := of_decide_eq_true hascending
      have hmembers := membersWith_literals_iff hcarried ms (below + 1) hsound (Nat.succ_pos below)
      rw [Value.literal, Value.unmarked, Value.height, Nat.add_lt_add_iff_right,
        Bool.and_eq_true, bne_iff_ne, and_assoc, ← hmembers]
      by_cases hhead : (ms.map (·.1)).head? = some carriedKey
      · exact iff_of_false (valueWith_members_ne_of_marked hcarried hhead) fun h => h.1 hhead
      · rw [valueWith_members hascending hhead, and_iff_right hhead]

theorem valuesWith_literals_iff (hcarried : Unmarking carried) : ∀ (vs : List Value)
    (depth : Nat), soundItems vs = true → 0 < depth →
      (valuesWith carried depth (literals vs) = some vs ↔
        unmarkedItems vs = true ∧ itemsHeight vs < depth)
  | [], _, _, hdepth => iff_of_true rfl ⟨rfl, hdepth⟩
  | v :: rest, depth, h, hdepth => by
      obtain ⟨hv, hrest⟩ := Bool.and_eq_true_iff.mp h
      have hfirst := valueWith_literal_iff hcarried v depth hv hdepth
      have hothers := valuesWith_literals_iff hcarried rest depth hrest hdepth
      have hboth : valuesWith carried depth (literals (v :: rest)) = some (v :: rest) ↔
          v.literal.valueWith carried depth = some v ∧
            valuesWith carried depth (literals rest) = some rest := by
        simp [literals, valuesWith, Option.bind_eq_some_iff]
      rw [hboth, hfirst, hothers, unmarkedItems, Bool.and_eq_true, itemsHeight, max_lt_iff]
      exact and_and_and_comm

theorem membersWith_literals_iff (hcarried : Unmarking carried) :
    ∀ (ms : List (String × Value)) (depth : Nat), soundMembers ms = true → 0 < depth →
      (membersWith carried depth (memberLiterals ms) = some ms ↔
        unmarkedMembers ms = true ∧ membersHeight ms < depth)
  | [], _, _, hdepth => iff_of_true rfl ⟨rfl, hdepth⟩
  | (key, v) :: rest, depth, h, hdepth => by
      obtain ⟨hv, hrest⟩ := Bool.and_eq_true_iff.mp h
      have hfirst := valueWith_literal_iff hcarried v depth hv hdepth
      have hothers := membersWith_literals_iff hcarried rest depth hrest hdepth
      have hboth : membersWith carried depth (memberLiterals ((key, v) :: rest)) =
          some ((key, v) :: rest) ↔ v.literal.valueWith carried depth = some v ∧
            membersWith carried depth (memberLiterals rest) = some rest := by
        simp [memberLiterals, membersWith, Option.bind_eq_some_iff]
      rw [hboth, hfirst, hothers, unmarkedMembers, Bool.and_eq_true, membersHeight, max_lt_iff]
      exact and_and_and_comm

end

end

theorem unmarking_carriedValue : ∀ fuel : Nat, Unmarking (carriedValue fuel)
  | 0 => nofun
  | fuel + 1 => fun text w h => by
      obtain ⟨l, -, hl⟩ := Option.bind_eq_some_iff.mp h
      exact valueWith_ne_marked (unmarking_carriedValue fuel) _ l w hl

theorem value?_literal_iff {v : Value} {depth : Nat} (h : v.sound = true) (hdepth : 0 < depth) :
    v.literal.value? depth = some v ↔ v.unmarked = true ∧ v.height < depth :=
  valueWith_literal_iff (unmarking_carriedValue _) v depth h hdepth

end Literal

end Json

end ChainReplica
