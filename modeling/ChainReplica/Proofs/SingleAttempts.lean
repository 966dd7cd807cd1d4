import ChainReplica.Proofs.Keyed
import ChainReplica.Proofs.Retries

/-!
# Waking up is a row of single attempts

A scheduler that wakes up attempts the jobs that are due, each as often as it fails
without a wait. These are single attempts, each at a job that is due, and after each of
them the job is gone or waits behind all others. So what every single attempt keeps is
kept (`Scheduler.Kept.wake`).

In this a job is found by its key, and no two live jobs have the same
(`Scheduler.nodup_submit`, `Scheduler.nodup_turn`).
-/

namespace ChainReplica

namespace Scheduler

variable {J σ : Type}

/-! ## Tasks by their keys -/

/-- A scheduler with other tasks. -/
def keeping (s : Scheduler J) (tasks : List (Task J)) : Scheduler J := { s with tasks := tasks }

theorem nodup_submit {s : Scheduler J} (h : (s.tasks.map (·.key)).Nodup) (now : Nat) {key : String}
    (job : J) : ((s.submit now key job).tasks.map (·.key)).Nodup := by
  rw [submit]
  split
  · exact h
  · rename_i hnew
    rw [List.map_append, List.nodup_append]
    refine ⟨h, List.nodup_singleton _, fun other hother mine hmine heq => hnew ?_⟩
    obtain ⟨t, ht, rfl⟩ := List.mem_map.mp hother
    exact isRunning_iff.mpr (mem_keys.mpr (Or.inl ⟨t, ht, heq.trans (List.mem_singleton.mp hmine)⟩))

theorem nodup_turn {s : Scheduler J} (h : (s.tasks.map (·.key)).Nodup) (done : Bool) {u : Task J}
    {key : String} (hu : u.key = key) :
    (((s.tasks.filter (·.key != key)) ++ if done then [] else [u]).map (·.key)).Nodup := by
  have hothers : ((s.tasks.filter (·.key != key)).map (·.key)).Nodup :=
    h.sublist (List.filter_sublist.map _)
  cases done with
  | true => simpa using hothers
  | false =>
      rw [if_neg Bool.false_ne_true, List.map_append, List.nodup_append]
      refine ⟨hothers, List.nodup_singleton _, fun other hother mine hmine => ?_⟩
      obtain ⟨t, ht, rfl⟩ := List.mem_map.mp hother
      rw [List.mem_singleton.mp hmine]
      simpa [hu] using (List.mem_filter.mp ht).2

/-- What is not due has another key than what is. -/
theorem filter_later {s : Scheduler J} (h : (s.tasks.map (·.key)).Nodup) (now : Nat) :
    (s.tasks.filter fun t => now < t.due) = s.tasks.filter fun t =>
      t.key ∉ (byDue (s.tasks.filter fun t => t.due ≤ now)).map (·.key) := by
  refine List.filter_congr fun t ht => decide_eq_decide.mpr ⟨fun hlt hkey => ?_, fun hkey => ?_⟩
  · obtain ⟨u, hu, hsame⟩ := List.mem_map.mp hkey
    obtain ⟨hmem, hdue⟩ := mem_byDue_filter.mp hu
    obtain rfl := List.inj_on_of_nodup_map h hmem ht hsame
    exact Nat.not_le_of_lt hlt hdue
  · exact Nat.lt_of_not_le fun hdue =>
      hkey (List.mem_map.mpr ⟨t, mem_byDue_filter.mpr ⟨ht, hdue⟩, rfl⟩)

/-! ## Attempts in a row -/

/-- A single attempt: the task is done, or waits for the next one. -/
theorem attemptTask_one (scheduler : Scheduler J) (now : Nat) (attempt : Task J → σ → Bool × σ)
    (t : Task J) (x : σ) : scheduler.attemptTask now attempt 1 t x =
      (if (attempt t x).1 then none else some (scheduler.retry now t), (attempt t x).2) := by
  rw [attemptTask]
  generalize attempt t x = outcome
  obtain ⟨done, y⟩ := outcome
  cases done with
  | true => rfl
  | false =>
      simp only [Bool.false_eq_true, if_false]
      split <;> rfl

/-- Attempts in a row are single attempts, one after the other, as long as the task is
due again at once. -/
theorem attemptTask_induction {s : Scheduler J} {now : Nat} {attempt : Task J → σ → Bool × σ}
    {motive : Option (Task J) × σ → Prop}
    (next : ∀ u y, u.due ≤ now → motive (some u, y) → motive (s.attemptTask now attempt 1 u y)) :
    ∀ (fuel : Nat) {t : Task J} {x : σ}, motive (s.attemptTask now attempt 1 t x) →
      motive (s.attemptTask now attempt (fuel + 1) t x)
  | 0, _, _, h => h
  | fuel + 1, t, x, h => by
      rw [attemptTask_one] at h
      rw [attemptTask]
      generalize attempt t x = outcome at h
      obtain ⟨done, y⟩ := outcome
      cases done with
      | true => exact h
      | false =>
          simp only [Bool.false_eq_true, if_false] at h ⊢
          split
          · exact h
          · exact attemptTask_induction next fuel (next _ _ (Nat.le_of_not_lt ‹_›) h)

section Wake

variable {s : Scheduler J} {now : Nat} {attempt : Task J → σ → Bool × σ}
  {motive : List (Task J) → σ → Prop}

/-- What every single attempt at a task that is due keeps. -/
def Kept (s : Scheduler J) (now : Nat) (attempt : Task J → σ → Bool × σ)
    (motive : List (Task J) → σ → Prop) : Prop :=
  ∀ {waiting t x}, motive waiting x → waiting.find? (·.key == t.key) = some t → t.due ≤ now →
    motive (waiting.filter (·.key != t.key) ++ (s.attemptTask now attempt 1 t x).1.toList)
      (s.attemptTask now attempt 1 t x).2

/-- What single attempts keep, attempts in a row do. The task, if it waits again, does
so behind all others. -/
theorem Kept.attemptTask (h : s.Kept now attempt motive) {waiting : List (Task J)} {t : Task J}
    {x : σ} (hx : motive waiting x)
    (hfind : waiting.find? (·.key == t.key) = some t) (hdue : t.due ≤ now) (fuel : Nat) :
    let r := s.attemptTask now attempt (fuel + 1) t x
    motive (waiting.filter (·.key != t.key) ++ r.1.toList) r.2
      ∧ ∀ u ∈ r.1.toList, u.key = t.key := by
  have hkeyed : ∀ {u y}, u.key = t.key →
      ∀ v ∈ (s.attemptTask now attempt 1 u y).1.toList, v.key = t.key := by
    intro u y hu v hv
    rw [attemptTask_one] at hv
    dsimp only at hv
    split at hv
    · cases hv
    · rw [Option.toList_some, List.mem_singleton] at hv
      rw [hv]
      exact hu
  refine attemptTask_induction (motive := fun r =>
      motive (waiting.filter (·.key != t.key) ++ r.1.toList) r.2 ∧ ∀ u ∈ r.1.toList, u.key = t.key)
    (fun u y hdue hbefore => ?_) fuel ⟨h hx hfind hdue, hkeyed rfl⟩
  obtain ⟨hy, hkey⟩ := hbefore
  change motive (waiting.filter (·.key != t.key) ++ [u]) y at hy
  obtain hkey : u.key = t.key := hkey u (List.mem_singleton_self u)
  -- The task waits behind all others now, so its next turn finds it.
  have hfind : ((waiting.filter (·.key != t.key) ++ [u]).find? (·.key == u.key)) = some u := by
    rw [hkey, List.find?_append, find?_others_self, Option.none_or, List.find?_singleton,
      hkey, beq_self_eq_true, if_pos rfl]
  have hothers : (waiting.filter (·.key != t.key) ++ [u]).filter (·.key != t.key) =
      waiting.filter (·.key != t.key) := by
    simp [List.filter_append, List.filter_filter, hkey]
  have hnext := h hy hfind hdue
  rw [hkey, hothers] at hnext
  exact ⟨hnext, hkeyed hkey⟩

/-- What single attempts keep, attempts at tasks one after the other do. -/
theorem Kept.attemptTasks (h : s.Kept now attempt motive) :
    ∀ (tasks : List (Task J)) {waiting : List (Task J)} {x : σ}, motive waiting x →
      (∀ t ∈ tasks, waiting.find? (·.key == t.key) = some t ∧ t.due ≤ now) →
      (tasks.map (·.key)).Nodup →
      let r := s.attemptTasks now attempt tasks x
      motive ((waiting.filter fun u => u.key ∉ tasks.map (·.key)) ++ r.1) r.2
  | [], waiting, x, hx, _, _ => by
      have hall : (waiting.filter fun u => u.key ∉ List.map Task.key ([] : List (Task J))) =
          waiting := List.filter_eq_self.mpr fun u _ => by simp
      simp only [Scheduler.attemptTasks, hall, List.append_nil]
      exact hx
  | t :: rest, waiting, x, hx, hfind, hkeys => by
      rw [List.forall_mem_cons] at hfind
      rw [List.map_cons, List.nodup_cons] at hkeys
      have hpatience : patience - 1 + 1 = patience := rfl
      have hfirst := h.attemptTask hx hfind.1.1 hfind.1.2 (patience - 1)
      rw [hpatience] at hfirst
      simp only [Scheduler.attemptTasks]
      generalize s.attemptTask now attempt patience t x = r at hfirst
      obtain ⟨left, y⟩ := r
      obtain ⟨hy, hkey⟩ := hfirst
      dsimp only at hy hkey ⊢
      have hrest : ∀ u ∈ rest, (waiting.filter (·.key != t.key) ++ left.toList).find?
          (·.key == u.key) = some u ∧ u.due ≤ now := fun u hu => by
        have hne : u.key ≠ t.key := fun heq => hkeys.1 (List.mem_map.mpr ⟨u, hu, heq⟩)
        rw [List.find?_append, find?_others _ hne, (hfind.2 u hu).1, Option.some_or]
        exact ⟨rfl, (hfind.2 u hu).2⟩
      have hmore := Kept.attemptTasks h rest hy hrest hkeys.2
      dsimp only at hmore
      have hleft : (left.toList.filter fun u => u.key ∉ rest.map (·.key)) = left.toList :=
        List.filter_eq_self.mpr fun u hu => by rw [hkey u hu]; exact decide_eq_true hkeys.1
      have hothers : ((waiting.filter (·.key != t.key)).filter fun u => u.key ∉ rest.map (·.key)) =
          waiting.filter fun u => u.key ∉ (t :: rest).map (·.key) := by
        rw [List.filter_filter]
        refine List.filter_congr fun u _ => ?_
        by_cases hu : u.key = t.key <;> simp [hu]
      rwa [List.filter_append, hleft, hothers, List.append_assoc] at hmore

/-- To wake up is to make single attempts: what each of these keeps, it does. -/
theorem Kept.wake (h : s.Kept now attempt motive)
    (hkeys : (s.tasks.map (·.key)).Nodup) {x : σ} (hx : motive s.tasks x) :
    motive (s.wake now attempt x).1.tasks (s.wake now attempt x).2 := by
  have hdue : ∀ t ∈ byDue (s.tasks.filter fun t => t.due ≤ now),
      s.tasks.find? (·.key == t.key) = some t ∧ t.due ≤ now := fun t ht =>
    have hmem := mem_byDue_filter.mp ht
    ⟨find?_key_of_mem hkeys hmem.1, hmem.2⟩
  have hnodup : ((byDue (s.tasks.filter fun t => t.due ≤ now)).map (·.key)).Nodup :=
    ((byDue_perm _).map _).nodup_iff.mpr (hkeys.sublist (List.filter_sublist.map _))
  have hall := h.attemptTasks _ hx hdue hnodup
  rw [← filter_later hkeys] at hall
  exact hall

end Wake

end Scheduler

end ChainReplica
