/-!
# Values by block number

A `BlockMap` holds at most one value per block number, in increasing block
order. It is the representation of the snapshot history, of the headers of a
delivered batch and of the recent canonical chain.

The order is part of the type, so every operation carries the proof that it
keeps it:

- `insert` puts a value at a block, replacing an earlier one there (`get?_insert`);
- `filter` keeps the blocks a test accepts (`get?_filter`);
- `newest?` finds the greatest block a test accepts.
-/

namespace ChainReplica

/-- Entries in strictly increasing block order. -/
abbrev Ascending {α : Type} (entries : List (Nat × α)) : Prop :=
  entries.Pairwise fun a b => a.1 < b.1

/-- Puts `x` at `block`, in its place and instead of an entry that was there. -/
def insertAscending {α : Type} (block : Nat) (x : α) : List (Nat × α) → List (Nat × α)
  | [] => [(block, x)]
  | (b, y) :: rest =>
    if block < b then (block, x) :: (b, y) :: rest
    else if block = b then (block, x) :: rest
    else (b, y) :: insertAscending block x rest

theorem mem_insertAscending {α : Type} {block : Nat} {x : α} {e : Nat × α}
    {entries : List (Nat × α)} (h : e ∈ insertAscending block x entries) :
    e = (block, x) ∨ e ∈ entries := by
  induction entries with
  | nil => simpa [insertAscending] using h
  | cons head rest ih => grind [insertAscending]

theorem mem_insertAscending_iff {α : Type} {block : Nat} {x : α} {e : Nat × α}
    {entries : List (Nat × α)} (h : Ascending entries) :
    e ∈ insertAscending block x entries ↔ e = (block, x) ∨ (e ∈ entries ∧ e.1 ≠ block) := by
  induction entries with
  | nil => simp [insertAscending]
  | cons head rest ih =>
    obtain ⟨b, y⟩ := head
    obtain ⟨hb, hrest⟩ := List.pairwise_cons.1 h
    unfold insertAscending
    split
    · rename_i hlt
      have later : ∀ e ∈ (b, y) :: rest, e.1 ≠ block := by
        intro e he
        rcases List.mem_cons.1 he with rfl | he
        · exact Nat.ne_of_gt hlt
        · exact Nat.ne_of_gt (Nat.lt_trans hlt (hb e he))
      rw [List.mem_cons]
      exact or_congr_right ⟨fun he => ⟨he, later e he⟩, And.left⟩
    · split
      · rename_i heq
        subst heq
        have later : ∀ e ∈ rest, e.1 ≠ block := fun e he => Nat.ne_of_gt (hb e he)
        rw [List.mem_cons, List.mem_cons]
        refine or_congr_right ⟨fun he => ⟨.inr he, later e he⟩, ?_⟩
        rintro ⟨rfl | he, hne⟩
        · exact absurd rfl hne
        · exact he
      · rename_i hge hne
        rw [List.mem_cons, ih hrest, List.mem_cons]
        constructor
        · rintro (rfl | rfl | ⟨he, hk⟩)
          · exact .inr ⟨.inl rfl, fun h => hne h.symm⟩
          · exact .inl rfl
          · exact .inr ⟨.inr he, hk⟩
        · rintro (rfl | ⟨rfl | he, hk⟩)
          · exact .inr (.inl rfl)
          · exact .inl rfl
          · exact .inr (.inr ⟨he, hk⟩)

theorem ascending_insertAscending {α : Type} (block : Nat) (x : α)
    {entries : List (Nat × α)} (h : Ascending entries) :
    Ascending (insertAscending block x entries) := by
  induction entries with
  | nil => simp [insertAscending]
  | cons head rest ih =>
    obtain ⟨b, y⟩ := head
    obtain ⟨hb, hrest⟩ := List.pairwise_cons.1 h
    unfold insertAscending
    split
    · rename_i hlt
      refine List.pairwise_cons.2 ⟨fun e he => ?_, h⟩
      rcases List.mem_cons.1 he with rfl | he
      · exact hlt
      · exact Nat.lt_trans hlt (hb e he)
    · split
      · rename_i heq
        exact List.pairwise_cons.2 ⟨fun e he => heq ▸ hb e he, hrest⟩
      · rename_i hge hne
        refine List.pairwise_cons.2 ⟨fun e he => ?_, ih hrest⟩
        rcases mem_insertAscending he with rfl | he
        · show b < block
          omega
        · exact hb e he

/-- At most one value per block number, in increasing block order. -/
structure BlockMap (α : Type) where
  entries : List (Nat × α)
  ascending : Ascending entries

namespace BlockMap

variable {α : Type}

@[ext] theorem ext {m n : BlockMap α} (h : m.entries = n.entries) : m = n := by
  cases m; cases n; cases h; rfl

def empty : BlockMap α := ⟨[], .nil⟩

instance : Inhabited (BlockMap α) := ⟨empty⟩

/-- Puts a value at a block, instead of one that was there. -/
def insert (m : BlockMap α) (block : Nat) (x : α) : BlockMap α :=
  ⟨insertAscending block x m.entries, ascending_insertAscending block x m.ascending⟩

/-- Later entries of the list replace earlier ones. -/
def ofList (entries : List (Nat × α)) : BlockMap α :=
  entries.foldl (fun m e => m.insert e.1 e.2) empty

def filter (m : BlockMap α) (keep : Nat → Bool) : BlockMap α :=
  ⟨m.entries.filter fun e => keep e.1, m.ascending.filter _⟩

def get? (m : BlockMap α) (block : Nat) : Option α :=
  (m.entries.find? fun e => e.1 == block).map (·.2)

def contains (m : BlockMap α) (block : Nat) : Bool :=
  m.entries.any fun e => e.1 == block

def blocks (m : BlockMap α) : List Nat := m.entries.map (·.1)

def values (m : BlockMap α) : List α := m.entries.map (·.2)

def size (m : BlockMap α) : Nat := m.entries.length

def isEmpty (m : BlockMap α) : Bool := m.entries.isEmpty

/-- The greatest block that `accept` accepts, with its value. -/
def newest? (m : BlockMap α) (accept : Nat → Bool) : Option (Nat × α) :=
  (m.entries.filter fun e => accept e.1).getLast?

def first? (m : BlockMap α) : Option (Nat × α) := m.entries.head?

def last? (m : BlockMap α) : Option (Nat × α) := m.entries.getLast?

@[simp] theorem entries_empty : (empty : BlockMap α).entries = [] := rfl

/-! ## What the operations do to the entries -/

/-- An insertion puts its own entry there and leaves those of other blocks. -/
theorem mem_entries_insert {m : BlockMap α} {block : Nat} {x : α} {e : Nat × α} :
    e ∈ (m.insert block x).entries ↔ e = (block, x) ∨ (e ∈ m.entries ∧ e.1 ≠ block) :=
  mem_insertAscending_iff m.ascending

/-- A block has one entry at most. -/
theorem eq_of_mem_entries {m : BlockMap α} {block : Nat} {x y : α}
    (hx : (block, x) ∈ m.entries) (hy : (block, y) ∈ m.entries) : x = y := by
  have key := m.ascending
  generalize m.entries = entries at hx hy key
  induction entries with
  | nil => cases hx
  | cons head rest ih =>
    obtain ⟨before, hrest⟩ := List.pairwise_cons.1 key
    rcases List.mem_cons.1 hx with rfl | hx <;> rcases List.mem_cons.1 hy with hy | hy
    · exact (Prod.mk.inj hy).2.symm
    · exact absurd (before _ hy) (Nat.lt_irrefl _)
    · exact absurd (hy ▸ before _ hx) (Nat.lt_irrefl _)
    · exact ih hx hy hrest

/-- The value of a block is that of its entry. -/
theorem get?_eq_some_iff {m : BlockMap α} {block : Nat} {x : α} :
    m.get? block = some x ↔ (block, x) ∈ m.entries := by
  unfold get?
  constructor
  · intro h
    obtain ⟨e, he, rfl⟩ := Option.map_eq_some_iff.1 h
    have hb : e.1 = block := by simpa using List.find?_some he
    exact hb ▸ List.mem_of_find?_eq_some he
  · intro h
    cases hf : m.entries.find? fun e => e.1 == block with
    | none => exact absurd (List.find?_eq_none.1 hf _ h) (by simp)
    | some e =>
      have hb : e.1 = block := by simpa using List.find?_some hf
      have he : (block, e.2) ∈ m.entries := hb ▸ List.mem_of_find?_eq_some hf
      exact congrArg some (eq_of_mem_entries he h)

@[simp] theorem entries_filter (m : BlockMap α) (keep : Nat → Bool) :
    (m.filter keep).entries = m.entries.filter fun e => keep e.1 := rfl

theorem get?_insert (m : BlockMap α) (block : Nat) (x : α) (key : Nat) :
    (m.insert block x).get? key = if key = block then some x else m.get? key := by
  ext y
  rw [get?_eq_some_iff, mem_entries_insert, Prod.mk.injEq]
  split
  · rename_i h
    simp [h, eq_comm]
  · rename_i h
    simp [h, get?_eq_some_iff]

theorem get?_filter (m : BlockMap α) (keep : Nat → Bool) (key : Nat) :
    (m.filter keep).get? key = if keep key then m.get? key else none := by
  ext y
  rw [get?_eq_some_iff, entries_filter, List.mem_filter]
  split <;> simp [*, get?_eq_some_iff]

end BlockMap

end ChainReplica
