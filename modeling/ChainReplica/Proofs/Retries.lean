import ChainReplica.Scheduler

/-!
# No job is lost

A scheduler wakes, and some of its jobs are attempted, some of them often. What
that does to the state that attempts change depends on the jobs; what it does to
the tasks does not: a job that was alive is done or waits again, and nothing else
waits (`Scheduler.wake_spec`). A task keeps its key and its job over all attempts.

`Dependable` is what has to be known of single attempts for that.
-/

namespace ChainReplica

variable {J σ : Type}

/-- The same job under the same key. -/
structure Task.Same (t u : Task J) : Prop where
  key : u.key = t.key
  job : u.job = t.job

/-- What attempts at jobs of a kind keep, and what is reached when one is done. -/
structure Dependable (attempt : Task J → σ → Bool × σ) (kind : J → Prop) (keeps : σ → Prop)
    (reached : J → σ → Prop) : Prop where
  keep {t : Task J} {x : σ} : kind t.job → keeps x → keeps (attempt t x).2
  reach {t : Task J} {x : σ} : kind t.job → keeps x → (attempt t x).1 = true →
    reached t.job (attempt t x).2
  stay {t : Task J} {x : σ} {j : J} : kind t.job → keeps x → reached j x →
    reached j (attempt t x).2

namespace Scheduler

variable (s : Scheduler J) (now : Nat) {attempt : Task J → σ → Bool × σ} {kind : J → Prop}
  {keeps : σ → Prop} {reached : J → σ → Prop}

theorem isRunning_iff {s : Scheduler J} {key : String} : s.isRunning key = true ↔ key ∈ s.keys :=
  List.contains_iff_mem

theorem mem_keys {s : Scheduler J} {key : String} :
    key ∈ s.keys ↔ (∃ t ∈ s.tasks, t.key = key) ∨ key ∈ s.finished := by
  rw [keys, List.mem_append, List.mem_map]

/-! ## Attempts -/

/-- A task waits again, or what its job is for is reached. -/
theorem attemptTask_spec (h : Dependable attempt kind keeps reached) :
    ∀ (fuel : Nat) {t : Task J} {x : σ}, kind t.job → keeps x →
      let r := s.attemptTask now attempt fuel t x
      keeps r.2 ∧ (∀ j, reached j x → reached j r.2)
        ∧ ((∃ u, r.1 = some u ∧ t.Same u) ∨ (r.1 = none ∧ reached t.job r.2))
  | 0, t, _, _, hx => ⟨hx, fun _ hj => hj, Or.inl ⟨t, rfl, rfl, rfl⟩⟩
  | fuel + 1, t, x, ht, hx => by
      have hkeep := h.keep ht hx
      have hstay : ∀ j, reached j x → reached j (attempt t x).2 := fun j => h.stay ht hx
      have hreach := h.reach ht hx
      simp only [attemptTask]
      generalize attempt t x = outcome at hkeep hstay hreach
      obtain ⟨done, y⟩ := outcome
      cases done with
      | true => exact ⟨hkeep, hstay, Or.inr ⟨rfl, hreach rfl⟩⟩
      | false =>
          simp only [Bool.false_eq_true, if_false]
          split
          · exact ⟨hkeep, hstay, Or.inl ⟨_, rfl, rfl, rfl⟩⟩
          · obtain ⟨hlast, hkept, hend⟩ :=
              attemptTask_spec h fuel (t := s.retry now t) (x := y) ht hkeep
            refine ⟨hlast, fun j hj => hkept j (hstay j hj), ?_⟩
            exact hend.imp_left fun ⟨u, hu, hsame⟩ => ⟨u, hu, hsame.key, hsame.job⟩

theorem attemptTasks_spec (h : Dependable attempt kind keeps reached) :
    ∀ (tasks : List (Task J)) {x : σ}, (∀ t ∈ tasks, kind t.job) → keeps x →
      let r := s.attemptTasks now attempt tasks x
      keeps r.2 ∧ (∀ j, reached j x → reached j r.2) ∧ (∀ u ∈ r.1, ∃ t ∈ tasks, t.Same u)
        ∧ ∀ t ∈ tasks, reached t.job r.2 ∨ ∃ u ∈ r.1, t.Same u
  | [], _, _, hx => ⟨hx, fun _ hj => hj, by simp [attemptTasks], by simp⟩
  | t :: rest, x, hkind, hx => by
      obtain ⟨hkeep, hstay, hend⟩ :=
        attemptTask_spec s now h patience (hkind t List.mem_cons_self) hx
      simp only [attemptTasks]
      generalize s.attemptTask now attempt patience t x = outcome at hkeep hstay hend
      obtain ⟨waiting, y⟩ := outcome
      obtain ⟨hlast, hkept, hold, hnew⟩ := attemptTasks_spec h rest
        (fun u hu => hkind u (List.mem_cons_of_mem _ hu)) hkeep
      refine ⟨hlast, fun j hj => hkept j (hstay j hj), ?_, ?_⟩
      · intro u hu
        rcases List.mem_append.mp hu with hu | hu
        · rcases hend with ⟨w, hw, hsame⟩ | ⟨hw, -⟩ <;> cases hw
          · rw [Option.toList_some, List.mem_singleton] at hu
            exact ⟨t, List.mem_cons_self, hu ▸ hsame⟩
          · cases hu
        · obtain ⟨v, hv, hsame⟩ := hold u hu
          exact ⟨v, List.mem_cons_of_mem _ hv, hsame⟩
      · intro v hv
        rcases List.mem_cons.mp hv with rfl | hv
        · rcases hend with ⟨w, hw, hsame⟩ | ⟨-, hdone⟩
          · exact Or.inr ⟨w, List.mem_append_left _ (Option.mem_toList.mpr hw), hsame⟩
          · exact Or.inl (hkept _ hdone)
        · exact (hnew v hv).imp_right fun ⟨u, hu, hsame⟩ =>
            ⟨u, List.mem_append_right _ hu, hsame⟩

/-! ## Waking up -/

theorem insertDue_perm (t : Task J) : ∀ tasks : List (Task J),
    (insertDue t tasks).Perm (t :: tasks)
  | [] => .refl _
  | u :: rest => by
      rw [insertDue]
      split
      · exact .refl _
      · exact ((insertDue_perm t rest).cons u).trans (.swap t u rest)

theorem byDue_perm (tasks : List (Task J)) : (byDue tasks).Perm tasks := by
  have hfold : ∀ tasks waiting : List (Task J),
      (tasks.foldl (fun acc t => insertDue t acc) waiting).Perm (tasks ++ waiting) := by
    intro tasks
    induction tasks with
    | nil => exact fun waiting => .refl _
    | cons t rest ih =>
        intro waiting
        exact (ih _).trans ((((insertDue_perm t waiting).append_left rest)).trans List.perm_middle)
  have hall := hfold tasks []
  rwa [List.append_nil] at hall

theorem mem_byDue {u : Task J} {tasks : List (Task J)} : u ∈ byDue tasks ↔ u ∈ tasks :=
  (byDue_perm tasks).mem_iff

theorem mem_byDue_filter {s : Scheduler J} {now : Nat} {t : Task J} :
    t ∈ byDue (s.tasks.filter fun t => t.due ≤ now) ↔ t ∈ s.tasks ∧ t.due ≤ now := by
  rw [mem_byDue, List.mem_filter, decide_eq_true_iff]

/-- Every job that was alive is done or waits again, and nothing else waits. -/
theorem wake_spec (h : Dependable attempt kind keeps reached) {x : σ}
    (hkind : ∀ t ∈ s.tasks, kind t.job) (hx : keeps x) :
    let r := s.wake now attempt x
    keeps r.2 ∧ (∀ u ∈ r.1.tasks, ∃ t ∈ s.tasks, t.Same u)
      ∧ ∀ t ∈ s.tasks, reached t.job r.2 ∨ ∃ u ∈ r.1.tasks, t.Same u := by
  obtain ⟨hlast, -, hold, hnew⟩ := attemptTasks_spec s now h
    (byDue (s.tasks.filter fun t => t.due ≤ now))
    (fun t ht => hkind t (mem_byDue_filter.mp ht).1) hx
  simp only [wake]
  refine ⟨hlast, ?_, ?_⟩
  · intro u hu
    rcases List.mem_append.mp hu with hu | hu
    · exact ⟨u, (List.mem_filter.mp hu).1, rfl, rfl⟩
    · obtain ⟨t, ht, hsame⟩ := hold u hu
      exact ⟨t, (mem_byDue_filter.mp ht).1, hsame⟩
  · intro t ht
    by_cases hd : t.due ≤ now
    · exact (hnew t (mem_byDue_filter.mpr ⟨ht, hd⟩)).imp_right fun ⟨u, hu, hsame⟩ =>
        ⟨u, List.mem_append_right _ hu, hsame⟩
    · refine Or.inr ⟨t, List.mem_append_left _ (List.mem_filter.mpr ⟨ht, ?_⟩), rfl, rfl⟩
      exact decide_eq_true (Nat.lt_of_not_le hd)

end Scheduler

end ChainReplica
