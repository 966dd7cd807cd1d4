import ChainReplica.Proofs.Commits
import ChainReplica.Proofs.Retries

/-!
# Attempts at a missing snapshot

The jobs of a fleet build the missing snapshots of its members. When those that
are due have been attempted, a member is what it was, or it has its first
snapshot, at the block of one of its jobs (`Fleet.runJobs_mends`). Its jobs stay
alive until then.

`Scheduler.Requested` says that a member has one job at most: the one that was
asked for first.
-/

namespace ChainReplica

variable {S : Type}

/-! ## Attempts at jobs -/

/-- What attempts make of a subscriber: nothing, or the first snapshot of one of
some blocks. -/
inductive Subscriber.Mends (among : Nat → Prop) (s : Subscriber S) : Subscriber S → Prop where
  | same : Mends among s s
  | installed {block : Nat} (x : S) : among block → s.replica.Bare →
      Mends among s { s with replica := s.replica.apply (some x) block }

namespace Subscriber.Mends

variable {among : Nat → Prop} {s t u : Subscriber S}

theorem awake (h : s.Mends among t) (ha : s.replica.inactive = false) :
    t.replica.inactive = false := by
  cases h <;> exact ha

theorem eq_of_holds (h : s.Mends among t) (hs : s.replica.Holds) : t = s := by
  cases h with
  | same => rfl
  | installed x _ hbare => cases hbare.2.symm.trans hs.2

theorem eq_of_bare (h : s.Mends among t) (ht : t.replica.Bare) : t = s := by
  cases h with
  | same => rfl
  | installed x _ _ => cases ht.2

theorem trans (h : s.Mends among t) (h' : t.Mends among u) : s.Mends among u := by
  cases h with
  | same => exact h'
  | installed x hblock hbare =>
      rw [h'.eq_of_holds ⟨hbare.1, rfl⟩]
      exact .installed x hblock hbare

end Subscriber.Mends

theorem Subscriber.heal_mends {s : Subscriber S} (ha : s.replica.inactive = false)
    (source : Source S) {among : Nat → Prop} {block : Nat} (hblock : among block) :
    s.Mends among (s.heal source block).2.1
      ∧ ((s.heal source block).1 = true → (s.heal source block).2.1.replica.Holds) := by
  rcases Replica.bare_or_holds ha with hbare | hheld
  · have hmissing : s.healed = false := by simp [healed, ha, hbare.2]
    simp only [heal, hmissing, Bool.false_eq_true, if_false]
    cases source block with
    | error e => exact ⟨.same, fun hdone => absurd hdone Bool.false_ne_true⟩
    | ok fresh =>
        simp only [put, ha, Bool.false_eq_true, if_false]
        exact ⟨.installed fresh hblock hbare, fun _ => ⟨ha, rfl⟩⟩
  · have hhealed : s.healed = true := by simp [healed, hheld.2]
    simp only [heal, hhealed, if_true]
    exact ⟨.same, fun _ => hheld⟩

/-- A job of a member at a block is alive. -/
def Scheduler.HasJob (s : Scheduler HealJob) (i block : Nat) : Prop :=
  ∃ t ∈ s.tasks, t.job.member = i ∧ t.job.block = block

namespace Fleet

variable {f : Fleet S} {i : Nat} {m : Member S} {among : Nat → Prop}

/-- A member of the fleet, awake, holds a snapshot. -/
def Holding (f : Fleet S) (i : Nat) : Prop :=
  ∃ m, f.member? i = some m ∧ m.subscriber.replica.Holds

theorem attempt_mends (hm : f.member? i = some m) (ha : m.subscriber.replica.inactive = false)
    {job : HealJob} (hblock : job.member = i → among job.block) :
    ∃ m', (f.attempt job).2.member? i = some m' ∧ m.subscriber.Mends among m'.subscriber
      ∧ (job.member = i → (f.attempt job).1 = true → m'.subscriber.replica.Holds) := by
  by_cases hown : job.member = i
  · obtain ⟨hmends, hdone⟩ := Subscriber.heal_mends ha m.source (hblock hown)
    simp only [attempt, hown, hm]
    obtain ⟨calls, hcommit⟩ := member?_commit_self (s := (m.subscriber.heal m.source job.block).2.1)
      hm (m.subscriber.heal m.source job.block).2.2
    exact ⟨_, hcommit, hmends, fun _ => hdone⟩
  · rw [attempt]
    cases f.member? job.member with
    | none => exact ⟨m, hm, .same, fun h => absurd h hown⟩
    | some other => exact ⟨m, (member?_commit_of_ne hown _).trans hm, .same,
        fun h => absurd h hown⟩

theorem attempt_dependable (among : Nat → Prop) (ha : m.subscriber.replica.inactive = false) :
    Dependable (fun t g => Fleet.attempt g t.job)
      (fun job : HealJob => job.member = i → among job.block)
      (fun g => ∃ m', g.member? i = some m' ∧ m.subscriber.Mends among m'.subscriber)
      (fun job g => job.member = i → g.Holding i) where
  keep := by
    rintro t g hblock ⟨m', hm', hmends⟩
    obtain ⟨last, hlast, hmore, -⟩ := attempt_mends hm' (hmends.awake ha) hblock
    exact ⟨last, hlast, hmends.trans hmore⟩
  reach := by
    rintro t g hblock ⟨m', hm', hmends⟩ hdone hown
    obtain ⟨last, hlast, -, hholds⟩ := attempt_mends hm' (hmends.awake ha) hblock
    exact ⟨last, hlast, hholds hown hdone⟩
  stay := by
    rintro t g job hblock - hreached hown
    obtain ⟨m', hm', hheld⟩ := hreached hown
    obtain ⟨last, hlast, hmends, -⟩ := attempt_mends hm' hheld.1 hblock
    exact ⟨last, hlast, hmends.eq_of_holds hheld ▸ hheld⟩

/-- What the jobs that are due make of a member: nothing, or its first snapshot
at the block of one of its jobs. Its jobs stay until it holds one. -/
theorem runJobs_mends {scheduler : Scheduler HealJob} (hm : f.member? i = some m)
    (ha : m.subscriber.replica.inactive = false) (hs : f.healing = .retried scheduler) :
    ∃ m' left, f.runJobs.member? i = some m'
      ∧ m.subscriber.Mends (scheduler.HasJob i) m'.subscriber
      ∧ f.runJobs.healing = .retried left ∧ left.finished = scheduler.finished
      ∧ (∀ u ∈ left.tasks, ∃ t ∈ scheduler.tasks, t.Same u)
      ∧ ∀ t ∈ scheduler.tasks, t.job.member = i →
        m'.subscriber.replica.Holds ∨ ∃ u ∈ left.tasks, t.Same u := by
  obtain ⟨⟨m', hm', hmends⟩, hold, hnew⟩ := scheduler.wake_spec f.now
    (attempt_dependable (scheduler.HasJob i) ha) (fun t ht hown => ⟨t, ht, hown, rfl⟩)
    ⟨m, hm, .same⟩
  rw [runJobs, hs]
  refine ⟨m', _, hm', hmends, rfl, rfl, hold, fun t ht hown => ?_⟩
  refine (hnew t ht).imp_left fun hreached => ?_
  obtain ⟨last, hlast, hheld⟩ := hreached hown
  obtain rfl : m' = last := Option.some.inj (hm'.symm.trans hlast)
  exact hheld

end Fleet

/-! ## One job for one member -/

/-- The jobs of a member are all at one block, and their key is taken. At block zero
there is none yet. -/
structure Scheduler.Requested (s : Scheduler HealJob) (i : Nat) (key : String) (block : Nat) :
    Prop where
  own : ∀ t ∈ s.tasks, t.key = key ∨ t.job.member = i →
    0 < block ∧ t.key = key ∧ t.job = ⟨i, key, block⟩
  taken : 0 < block → key ∈ s.keys

namespace Scheduler.Requested

variable {s : Scheduler HealJob} {i block : Nat} {key : String}

/-- A job that is asked for while its key is taken is not accepted. -/
theorem submit (h : s.Requested i key block) {now asked : Nat} (hasked : 0 < asked) :
    (s.submit now key ⟨i, key, asked⟩).Requested i key (if 0 < block then block else asked) := by
  rw [Scheduler.submit]
  by_cases hpos : 0 < block
  · rw [if_pos (isRunning_iff.mpr (h.taken hpos)), if_pos hpos]
    exact h
  · have hnone : ∀ t ∈ s.tasks, ¬(t.key = key ∨ t.job.member = i) := fun t ht hown =>
      hpos (h.own t ht hown).1
    rw [if_neg hpos]
    split
    · rename_i hrunning
      exact ⟨fun t ht hown => absurd hown (hnone t ht), fun _ => isRunning_iff.mp hrunning⟩
    · refine ⟨fun t ht hown => ?_, fun _ => mem_keys.mpr
        (Or.inl ⟨_, List.mem_append_right _ (List.mem_singleton_self _), rfl⟩)⟩
      rcases List.mem_append.mp ht with ht | ht
      · exact absurd hown (hnone t ht)
      · rw [List.mem_singleton.mp ht]
        exact ⟨hasked, rfl, rfl⟩

theorem of_same {left : Scheduler HealJob} (h : s.Requested i key block)
    (hfinished : left.finished = s.finished)
    (hold : ∀ u ∈ left.tasks, ∃ t ∈ s.tasks, t.Same u)
    (hnew : ∀ t ∈ s.tasks, t.job.member = i → ∃ u ∈ left.tasks, t.Same u) :
    left.Requested i key block := by
  constructor
  · intro u hu hown
    obtain ⟨t, ht, hsame⟩ := hold u hu
    rw [hsame.key, hsame.job] at hown ⊢
    exact h.own t ht hown
  · intro hpos
    rw [mem_keys, hfinished]
    refine (mem_keys.mp (h.taken hpos)).imp_left fun ⟨t, ht, hkey⟩ => ?_
    obtain ⟨-, -, hjob⟩ := h.own t ht (Or.inl hkey)
    obtain ⟨u, hu, hsame⟩ := hnew t ht (by rw [hjob])
    exact ⟨u, hu, hsame.key.trans hkey⟩

end Scheduler.Requested

end ChainReplica
