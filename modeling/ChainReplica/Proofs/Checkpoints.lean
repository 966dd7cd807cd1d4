import ChainReplica.Replica

/-!
# Which checkpoints are left

The operations on a history, read as statements about its entries: an
insertion replaces the entry of its block, pruning keeps the blocks from a
bound on, and the two searches find the greatest block that is allowed.

The statements about entries are the only ones that later modules use; none
of them opens the lists behind a `BlockMap` again. The last section says the
same of the moves of a `Replica`.
-/

namespace ChainReplica

/-! ## The greatest block that is accepted -/

namespace BlockMap

variable {α : Type} {m : BlockMap α} {accept : Nat → Bool}

/-- The last entry of an ascending list is the one with the greatest block. -/
theorem getLast?_eq_some_iff_of_ascending {l : List (Nat × α)} (hl : Ascending l)
    {e : Nat × α} : l.getLast? = some e ↔ e ∈ l ∧ ∀ e' ∈ l, e'.1 ≤ e.1 := by
  induction l with
  | nil => simp
  | cons head rest ih =>
      obtain ⟨hhead, hrest⟩ := List.pairwise_cons.1 hl
      cases rest with
      | nil =>
          simp only [List.getLast?_singleton, Option.some.injEq, List.mem_singleton]
          constructor
          · rintro rfl
            exact ⟨rfl, fun e' he' => he' ▸ Nat.le_refl _⟩
          · rintro ⟨rfl, -⟩
            rfl
      | cons next rest =>
          rw [List.getLast?_cons_cons, ih hrest]
          constructor
          · rintro ⟨he, hmax⟩
            refine ⟨List.mem_cons_of_mem _ he, fun e' he' => ?_⟩
            rcases List.mem_cons.1 he' with rfl | he'
            · exact Nat.le_of_lt (hhead e he)
            · exact hmax e' he'
          · rintro ⟨he, hmax⟩
            refine ⟨?_, fun e' he' => hmax e' (List.mem_cons_of_mem _ he')⟩
            rcases List.mem_cons.1 he with rfl | he
            · have hnext := hhead next List.mem_cons_self
              have := hmax next (List.mem_cons_of_mem _ List.mem_cons_self)
              omega
            · exact he

theorem newest?_eq_some_iff {e : Nat × α} :
    m.newest? accept = some e ↔
      (e ∈ m.entries ∧ accept e.1 = true)
        ∧ ∀ e' ∈ m.entries, accept e'.1 = true → e'.1 ≤ e.1 := by
  rw [newest?, getLast?_eq_some_iff_of_ascending (m.ascending.filter _)]
  simp only [List.mem_filter, and_imp]

theorem newest?_eq_none_iff :
    m.newest? accept = none ↔ ∀ e ∈ m.entries, accept e.1 = false := by
  simp [newest?]

theorem entry_unique {e e' : Nat × α} (he : e ∈ m.entries) (he' : e' ∈ m.entries)
    (h : e.1 = e'.1) : e = e' := by
  obtain ⟨block, x⟩ := e
  obtain ⟨block', x'⟩ := e'
  obtain rfl : block = block' := h
  rw [eq_of_mem_entries he he']

/-- A map is what its entries are. -/
theorem ext_of_mem {m n : BlockMap α} (h : ∀ e, e ∈ m.entries ↔ e ∈ n.entries) : m = n := by
  have hnodup : ∀ k : BlockMap α, k.entries.Nodup := by
    intro k
    refine List.Pairwise.imp ?_ k.ascending
    rintro a b hlt rfl
    exact Nat.lt_irrefl _ hlt
  have hperm : m.entries.Perm n.entries :=
    (List.perm_ext_iff_of_nodup (hnodup m) (hnodup n)).mpr h
  apply BlockMap.ext
  refine hperm.eq_of_pairwise ?_ m.ascending n.ascending
  intro a b _ _ hab hba
  exact absurd hab (Nat.lt_asymm hba)

theorem get?_ofList {g : Nat → α} {keys : List Nat} {block : Nat} :
    (ofList (keys.map fun n => (n, g n))).get? block =
      if block ∈ keys then some (g block) else none := by
  have hfold : ∀ (ks : List Nat) (m : BlockMap α),
      ((ks.map fun n => (n, g n)).foldl (fun m e => m.insert e.1 e.2) m).get? block =
        if block ∈ ks then some (g block) else m.get? block := by
    intro ks
    induction ks with
    | nil => exact fun m => rfl
    | cons k ks ih =>
        intro m
        rw [List.map_cons, List.foldl_cons, ih, get?_insert]
        by_cases hk : block = k <;> by_cases hks : block ∈ ks <;> simp [hk, hks]
  exact hfold keys empty

theorem contains_iff {block : Nat} :
    m.contains block = true ↔ ∃ x, (block, x) ∈ m.entries := by
  simp only [contains, List.any_eq_true, beq_iff_eq]
  constructor
  · rintro ⟨⟨b, x⟩, he, rfl⟩
    exact ⟨x, he⟩
  · rintro ⟨x, he⟩
    exact ⟨_, he, rfl⟩

end BlockMap

/-! ## Histories -/

namespace History

variable {S : Type} {h : History S} {block : Nat} {x : S} {e : Nat × S}

abbrev entries (h : History S) : List (Nat × S) := h.checkpoints.entries

theorem mem_insert :
    e ∈ (h.insert block x).entries ↔ e = (block, x) ∨ (e ∈ h.entries ∧ e.1 ≠ block) :=
  BlockMap.mem_entries_insert

theorem mem_removeBelow :
    e ∈ (h.removeBelow block).2.entries ↔ e ∈ h.entries ∧ block ≤ e.1 := by
  simp [removeBelow, retain, entries]

theorem mem_removeAbove {keep : Option Nat} :
    e ∈ (h.removeAbove block keep).2.entries ↔
      e ∈ h.entries ∧ (e.1 ≤ block ∨ keep = some e.1) := by
  simp [removeAbove, retain, entries]

theorem mem_prune {anchor : Nat} :
    e ∈ (h.prune anchor).2.entries ↔ e ∈ h.entries ∧ anchor - h.retention ≤ e.1 :=
  mem_removeBelow

/-- Storing a checkpoint that is there already changes nothing. -/
theorem insert_self (hx : (block, x) ∈ h.entries) : h.insert block x = h := by
  have hsame : h.checkpoints.insert block x = h.checkpoints := by
    apply BlockMap.ext_of_mem
    intro e
    rw [BlockMap.mem_entries_insert]
    constructor
    · rintro (rfl | ⟨he, -⟩)
      · exact hx
      · exact he
    · intro he
      by_cases hblock : e.1 = block
      · exact Or.inl (BlockMap.entry_unique he hx hblock)
      · exact Or.inr ⟨he, hblock⟩
  rw [insert, hsame]

theorem get?_insert_of_ne {key : Nat} (hne : key ≠ block) :
    (h.insert block x).get? key = h.get? key :=
  (BlockMap.get?_insert _ _ _ _).trans (if_neg hne)

theorem get?_prune {anchor key : Nat} :
    (h.prune anchor).2.get? key = if anchor - h.retention ≤ key then h.get? key else none := by
  have hfilter := BlockMap.get?_filter h.checkpoints (fun b => anchor - h.retention ≤ b) key
  simp only [decide_eq_true_eq] at hfilter
  exact hfilter

theorem latestBefore_eq_some_iff :
    h.latestBefore block = some e ↔
      (e ∈ h.entries ∧ e.1 < block) ∧ ∀ e' ∈ h.entries, e'.1 < block → e'.1 ≤ e.1 := by
  simp [latestBefore, BlockMap.newest?_eq_some_iff]

theorem latestUpTo_eq_some_iff :
    h.latestUpTo block = some e ↔
      (e ∈ h.entries ∧ e.1 ≤ block) ∧ ∀ e' ∈ h.entries, e'.1 ≤ block → e'.1 ≤ e.1 := by
  simp [latestUpTo, BlockMap.newest?_eq_some_iff]

theorem latestUpTo_eq_none_iff :
    h.latestUpTo block = none ↔ ∀ e ∈ h.entries, block < e.1 := by
  simp only [latestUpTo, BlockMap.newest?_eq_none_iff, decide_eq_false_iff_not, Nat.not_le]

end History

/-! ## Replicas -/

namespace Replica

variable {S : Type} {r : Replica S} {block : Nat} {x : S} {e : Nat × S}

abbrev entries (r : Replica S) : List (Nat × S) := r.history.entries

/-- A snapshot that is written replaces the entry of its block, and the
history is pruned against it. -/
theorem mem_apply :
    e ∈ (r.apply (some x) block).entries ↔
      (e = (block, x) ∨ (e ∈ r.entries ∧ e.1 ≠ block)) ∧ block - r.history.retention ≤ e.1 :=
  History.mem_prune.trans (and_congr_left' History.mem_insert)

theorem mem_apply_self : (block, x) ∈ (r.apply (some x) block).entries :=
  mem_apply.mpr ⟨Or.inl rfl, Nat.sub_le ..⟩

theorem mem_checkpoint :
    e ∈ (r.checkpoint block x).entries ↔ e = (block, x) ∨ (e ∈ r.entries ∧ e.1 ≠ block) :=
  History.mem_insert

theorem checkpoint_self (h : (block, x) ∈ r.entries) : r.checkpoint block x = r := by
  rw [checkpoint, History.insert_self h]

theorem hasSnapshot_iff : r.hasSnapshot = true ↔ ∃ x, r.current = some x :=
  Option.isSome_iff_exists

end Replica

end ChainReplica
