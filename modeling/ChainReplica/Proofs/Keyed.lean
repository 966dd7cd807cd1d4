import Mathlib.Data.List.Nodup

/-!
# Lists with keys

Live jobs, stored texts and counted messages are lists that are searched by a key. An
element with some key is found if and only if there is one, and what is done to the
others does not change what is found.
-/

namespace ChainReplica

section Keyed

variable {α κ : Type} [DecidableEq κ] {key : α → κ}

theorem find?_others_self (xs : List α) (k : κ) :
    ((xs.filter (key · != k)).find? (key · == k)) = none :=
  List.find?_eq_none.mpr fun x hx => by
    have hother := (List.mem_filter.mp hx).2
    simpa using hother

theorem find?_others (xs : List α) {k k' : κ} (h : k' ≠ k) :
    ((xs.filter (key · != k)).find? (key · == k')) = xs.find? (key · == k') := by
  rw [List.find?_filter]
  congr 1
  funext x
  by_cases hx : key x = k' <;> simp [hx, h]

theorem find?_key_of_mem {xs : List α} (h : (xs.map key).Nodup) {x : α} (hx : x ∈ xs) :
    xs.find? (key · == key x) = some x := by
  cases hfound : xs.find? (key · == key x) with
  | none => simpa using List.find?_eq_none.mp hfound x hx
  | some y =>
      have hkey : key y = key x := by simpa using List.find?_some hfound
      rw [List.inj_on_of_nodup_map h (List.mem_of_find?_eq_some hfound) hx hkey]

theorem find?_key_eq_some_iff {xs : List α} (h : (xs.map key).Nodup) {k : κ} {x : α} :
    xs.find? (key · == k) = some x ↔ x ∈ xs ∧ key x = k := by
  constructor
  · intro hfound
    exact ⟨List.mem_of_find?_eq_some hfound, by simpa using List.find?_some hfound⟩
  · rintro ⟨hx, rfl⟩
    exact find?_key_of_mem h hx

/-- A key picks out at most one element. -/
theorem filter_key_eq {xs : List α} (h : (xs.map key).Nodup) (k : κ) :
    xs.filter (key · == k) = (xs.find? (key · == k)).toList := by
  induction xs with
  | nil => rfl
  | cons x rest ih =>
      obtain ⟨hx, hrest⟩ := List.nodup_cons.mp h
      by_cases hk : key x = k
      · subst hk
        have hnone : rest.filter (key · == key x) = [] := by
          refine List.filter_eq_nil_iff.mpr fun y hy hsame => hx ?_
          exact List.mem_map.mpr ⟨y, hy, by simpa using hsame⟩
        simp [hnone]
      · simp [hk, ih hrest]

theorem find?_filter_key {xs : List α} (h : (xs.map key).Nodup) (keep : α → Bool) (k : κ) :
    (xs.filter keep).find? (key · == k) = (xs.find? (key · == k)).filter keep := by
  have hkept : ((xs.filter keep).map key).Nodup := h.sublist (List.filter_sublist.map _)
  refine Option.ext fun x => ?_
  rw [find?_key_eq_some_iff hkept, Option.filter_eq_some_iff, find?_key_eq_some_iff h,
    List.mem_filter, and_right_comm]

end Keyed

end ChainReplica
