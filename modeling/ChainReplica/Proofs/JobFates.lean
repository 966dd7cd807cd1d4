import ChainReplica.Proofs.Workers

/-!
# What becomes of a job

The workers of a pool are the submissions that were accepted, in order
(`Pool.submissions_after`), and a worker that has given its key back stays as it is
(`Pool.after_gone`).

An endless run is fair to a worker (`Pool.Fair`) if the clock goes on, and the worker
makes a move at some time when it can make one. Then a job that succeeds in the end
is not given up: its worker attempts it until it succeeds, and gives the key back
(`Pool.Fair.released`). No worker waits for another one.
-/

namespace ChainReplica

variable {J : Type}

namespace Pool

variable {p p' : Pool J} {e : Turn J} {n : Nat} {w v : Worker J} {turns : Nat → Turn J} {k : Nat}

/-! ## Accepted jobs -/

/-- What a turn adds to the jobs that are accepted. -/
def accepts (p : Pool J) : Turn J → List (String × J)
  | .submit key job => if p.isRunning key then [] else [(key, job)]
  | .advance _ | .act _ _ => []

/-- The submissions of a run that are accepted. -/
def accepted (p : Pool J) : List (Turn J) → List (String × J)
  | [] => []
  | e :: rest => p.accepts e ++ (p.pass e).accepted rest

def submissions (p : Pool J) : List (String × J) := p.workers.map fun w => (w.key, w.job)

theorem submissions_moved {w' : Worker J} {m : Move} (hn : p.worker? n = some w)
    (hmoves : w.Moves p.now p.maxDelay m w') :
    (p.moved n m w w').submissions = p.submissions := by
  have hsame : (p.workers.map fun w => (w.key, w.job))[n]? = some (w'.key, w'.job) := by
    rw [List.getElem?_map, show p.workers[n]? = some w from hn, hmoves.key, hmoves.job]
    rfl
  obtain ⟨hlt, heq⟩ := List.getElem?_eq_some_iff.mp hsame
  rw [submissions, moved, List.map_set, ← heq, List.set_getElem_self]
  rfl

theorem submissions_pass (p : Pool J) (e : Turn J) :
    (p.pass e).submissions = p.submissions ++ p.accepts e := by
  cases e with
  | submit key job =>
      rw [accepts]
      by_cases hrunning : p.isRunning key = true
      · rw [if_pos hrunning, List.append_nil, pass, submit_of_taken hrunning]
      · rw [if_neg hrunning, pass, submit, if_neg hrunning]
        exact List.map_append
  | advance span => exact (List.append_nil _).symm
  | act n m =>
      rw [accepts, List.append_nil]
      have hpass := p.passes (.act n m)
      generalize p.pass (.act n m) = p' at hpass
      cases hpass with
      | still => rfl
      | acted hn hmoves => exact submissions_moved hn hmoves

/-- There is a worker for every job that was accepted, and for no other. -/
theorem submissions_after : ∀ (run : List (Turn J)) (p : Pool J),
    (p.after run).submissions = p.submissions ++ p.accepted run
  | [], _ => (List.append_nil _).symm
  | e :: rest, p => by
      rw [after, submissions_after rest, submissions_pass, accepted, List.append_assoc]

/-! ## Workers stay in their places -/

/-- In a turn a worker stays as it is, or it makes a move. -/
theorem Passes.worker? (h : p.Passes e p') (hn : p.worker? n = some w) :
    p'.worker? n = some w ∨ ∃ m w', e = .act n m ∧ w.Moves p.now p.maxDelay m w'
      ∧ p' = p.moved n m w w' := by
  cases h with
  | still => exact Or.inl hn
  | aged span => exact Or.inl hn
  | accepted job hfree =>
      refine Or.inl ?_
      rw [worker?_took, if_neg, hn]
      rintro rfl
      cases worker?_length.symm.trans hn
  | @acted i m v v' hi hmoves =>
      by_cases hin : i = n
      · subst i
        cases hn.symm.trans hi
        exact Or.inr ⟨m, v', rfl, hmoves, rfl⟩
      · exact Or.inl (by rw [worker?_moved hi, if_neg hin, hn])

theorem Passes.worker?_of_none (h : p.Passes e p') (hn : p.worker? n = none)
    (hw : p'.worker? n = some w) : ∃ key job, w = p.fresh key job := by
  cases h with
  | still => cases hn.symm.trans hw
  | aged span => cases hn.symm.trans hw
  | @accepted key job hfree =>
      rw [worker?_took, hn] at hw
      split at hw
      · exact ⟨key, job, (Option.some.inj hw).symm⟩
      · cases hw
  | @acted i m v v' hi hmoves =>
      rw [worker?_moved hi, hn] at hw
      split at hw
      · subst i
        cases hn.symm.trans hi
      · cases hw

theorem after_gone (hn : p.worker? n = some w) (hgone : w.work = .gone) (run : List (Turn J)) :
    (p.after run).worker? n = some w :=
  after_keeps (P := fun p => p.worker? n = some w) (fun h hpass => by
    rcases hpass.worker? h with hsame | ⟨m, w', -, hmoves, -⟩
    · exact hsame
    · exact absurd hgone hmoves.live.1) run hn

/-! ## Endless runs -/

/-- The pool at a time of an endless run. -/
def during (p : Pool J) (turns : Nat → Turn J) : Nat → Pool J
  | 0 => p
  | t + 1 => (p.during turns t).pass (turns t)

/-- The worker at a place makes this move now. -/
def Makes (p : Pool J) (n : Nat) (w : Worker J) (e : Turn J) : Prop :=
  p.worker? n = some w ∧ ∃ m w', e = .act n m ∧ w.Moves p.now p.maxDelay m w'

/-- The clock goes on, and the worker at a place makes a move if it can make one. -/
structure Fair (p : Pool J) (turns : Nat → Turn J) (n : Nat) : Prop where
  clock (time : Nat) : ∃ t, time ≤ (p.during turns t).now
  moves {t : Nat} {w w' : Worker J} {m : Move} : (p.during turns t).worker? n = some w →
    w.Moves (p.during turns t).now (p.during turns t).maxDelay m w' →
      ∃ u v, t ≤ u ∧ (p.during turns u).Makes n v (turns u)

/-- The job of the worker at a place fails in its first attempts and then succeeds. -/
def FailsFirst (p : Pool J) (turns : Nat → Turn J) (n k : Nat) : Prop :=
  ∀ t w done draw, (p.during turns t).worker? n = some w → w.work = .trying →
    turns t = .act n (.finish done draw) → done = decide (k < w.attempts)

/-- Until a worker makes a move, it stays as it is. -/
theorem during_worker? {t : Nat} (hn : (p.during turns t).worker? n = some w) {u : Nat}
    (htu : t ≤ u) : (p.during turns u).worker? n = some w
      ∨ ∃ s, t ≤ s ∧ (p.during turns s).Makes n w (turns s) := by
  induction htu with
  | refl => exact Or.inl hn
  | @step u htu ih =>
      rcases ih with hsame | hmade
      · rcases ((p.during turns u).passes (turns u)).worker? hsame with hstill | hmoves
        · exact Or.inl hstill
        · obtain ⟨m, w', he, hmoves, -⟩ := hmoves
          exact Or.inr ⟨u, htu, hsame, m, w', he, hmoves⟩
      · exact Or.inr hmade

theorem now_le (h : p.Passes e p') : p.now ≤ p'.now := by
  cases h with
  | still => exact Nat.le_refl _
  | accepted job hfree => exact Nat.le_refl _
  | aged span => exact Nat.le_add_right _ _
  | acted hn hmoves => exact Nat.le_refl _

theorem during_now {t u : Nat} (htu : t ≤ u) : (p.during turns t).now ≤ (p.during turns u).now := by
  induction htu with
  | refl => exact Nat.le_refl _
  | step _ ih => exact Nat.le_trans ih (now_le ((p.during turns _).passes _))

/-- A worker that is alive makes a move. -/
theorem Fair.makes (h : p.Fair turns n) {t : Nat} (hn : (p.during turns t).worker? n = some w)
    (hlive : w.Live) : ∃ s, t ≤ s ∧ (p.during turns s).Makes n w (turns s) := by
  -- It can make one now, or when the clock has come to the time that it waits for.
  have hcan : ∃ u, t ≤ u ∧
      ∃ m w', w.Moves (p.during turns u).now (p.during turns u).maxDelay m w' := by
    cases hwork : w.work with
    | waiting due =>
        obtain ⟨u, hu⟩ := h.clock due
        refine ⟨max t u, Nat.le_max_left _ _, .begin, _, .began hwork ?_⟩
        exact Nat.le_trans hu (during_now (Nat.le_max_right _ _))
    | trying => exact ⟨t, Nat.le_refl t, _, _, .succeeded hwork 0⟩
    | finished => exact ⟨t, Nat.le_refl t, _, _, .released hwork⟩
    | gone => exact absurd hwork hlive
  obtain ⟨u, htu, m, w', hmoves⟩ := hcan
  rcases during_worker? hn htu with hsame | hmade
  · obtain ⟨s, v, hus, hv⟩ := h.moves hsame hmoves
    rcases during_worker? hn (Nat.le_trans htu hus) with hstill | hmade
    · cases hstill.symm.trans hv.1
      exact ⟨s, Nat.le_trans htu hus, hv⟩
    · exact hmade
  · exact hmade

end Pool

/-! ## The last attempt -/

namespace Worker

variable {w w' : Worker J} {now maxDelay k : Nat} {m : Move}

/-- How often a job is attempted that fails in its first attempts and then succeeds. -/
def Within (k : Nat) (w : Worker J) : Prop :=
  match w.work with
  | .waiting _ => w.attempts ≤ k
  | .trying => w.attempts ≤ k + 1
  | .finished | .gone => w.attempts = k + 1

/-- How many moves such a worker has before it. -/
def left (k : Nat) (w : Worker J) : Nat :=
  match w.work with
  | .waiting _ => 2 * (k + 1 - w.attempts) + 1
  | .trying => 2 * (k + 1 - w.attempts) + 2
  | .finished => 1
  | .gone => 0

theorem Moves.within (h : w.Moves now maxDelay m w') (hwithin : w.Within k)
    (hanswer : ∀ done draw, w.work = .trying → m = .finish done draw →
      done = decide (k < w.attempts)) : w'.Within k := by
  cases h with
  | began hwork hdue =>
      rw [Within, hwork] at hwithin
      exact Nat.succ_le_succ hwithin
  | failed hwork draw =>
      exact Nat.le_of_not_lt (of_decide_eq_false (hanswer _ _ hwork rfl).symm)
  | succeeded hwork draw =>
      rw [Within, hwork] at hwithin
      exact Nat.le_antisymm hwithin (of_decide_eq_true (hanswer _ _ hwork rfl).symm)
  | released hwork =>
      rw [Within, hwork] at hwithin
      exact hwithin

theorem Moves.left_lt (h : w.Moves now maxDelay m w') (hwithin : w.Within k)
    (hafter : w'.Within k) : w'.left k < w.left k := by
  cases h with
  | began hwork hdue =>
      rw [Within, hwork] at hwithin
      simp only [left, hwork]
      omega
  | failed hwork draw =>
      simp only [left, hwork]
      omega
  | succeeded hwork draw =>
      simp only [left, hwork]
      omega
  | released hwork =>
      simp only [left, hwork]
      omega

end Worker

namespace Pool

variable {p : Pool J} {n : Nat} {w : Worker J} {turns : Nat → Turn J} {k : Nat}

theorem FailsFirst.within {initialDelay maxDelay : Nat}
    (h : (new initialDelay maxDelay : Pool J).FailsFirst turns n k) : ∀ (t : Nat) {w : Worker J},
    ((new initialDelay maxDelay).during turns t).worker? n = some w → w.Within k
  | 0, _, hn => nomatch hn
  | t + 1, w, hn => by
      have hpass := ((new initialDelay maxDelay).during turns t).passes (turns t)
      cases hbefore : ((new initialDelay maxDelay).during turns t).worker? n with
      | none =>
          obtain ⟨key, job, rfl⟩ := hpass.worker?_of_none hbefore hn
          exact Nat.zero_le k
      | some v =>
          have hv : v.Within k := h.within t hbefore
          rcases hpass.worker? hbefore with hsame | ⟨m, v', he, hmoves, hmoved⟩
          · cases hsame.symm.trans hn
            exact hv
          · rw [during, hmoved, worker?_moved hbefore, if_pos rfl] at hn
            cases hn
            exact hmoves.within hv fun done draw hwork hm =>
              h t v done draw hbefore hwork (hm ▸ he)

/-- A job that fails some times and then succeeds is attempted once more than it fails,
and its key is given back. -/
theorem Fair.released {initialDelay maxDelay : Nat}
    (hfair : (new initialDelay maxDelay : Pool J).Fair turns n)
    (hjob : (new initialDelay maxDelay : Pool J).FailsFirst turns n k) {t : Nat}
    (hn : ((new initialDelay maxDelay).during turns t).worker? n = some w) (hlive : w.Live) :
    ∃ u v, t ≤ u ∧ ((new initialDelay maxDelay).during turns u).worker? n = some v
      ∧ v.key = w.key ∧ v.job = w.job ∧ v.work = .gone ∧ v.attempts = k + 1
      ∧ ((new initialDelay maxDelay).during turns u).isRunning w.key = false := by
  -- Every move leaves less to do.
  induction hleft : w.left k using Nat.strong_induction_on generalizing t w with
  | _ left ih =>
      obtain ⟨s, hts, hs, m, w', he, hmoves⟩ := hfair.makes hn hlive
      have hnext : (new initialDelay maxDelay).during turns (s + 1) =
          ((new initialDelay maxDelay).during turns s).moved n m w w' := by
        rw [during, he, pass_act hs hmoves]
      have hn' : ((new initialDelay maxDelay).during turns (s + 1)).worker? n = some w' := by
        rw [hnext, worker?_moved hs, if_pos rfl]
      have hwithin' : w'.Within k := hjob.within (s + 1) hn'
      by_cases hm : m = .release
      · subst hm
        refine ⟨s + 1, w', Nat.le_succ_of_le hts, hn', hmoves.key, hmoves.job, ?_, ?_, ?_⟩
        · cases hmoves
          rfl
        · cases hmoves
          exact hwithin'
        · rw [hnext, isRunning, moved, if_pos rfl]
          exact decide_eq_false (Finset.notMem_erase _ _)
      · have hlt : w'.left k < left := hleft ▸ hmoves.left_lt (hjob.within s hs) hwithin'
        obtain ⟨u, v, hsu, hv, hkey, hvjob, hgone, hattempts, hfree⟩ :=
          ih _ hlt hn' (hmoves.live.2.mpr hm) rfl
        rw [hmoves.key] at hkey hfree
        exact ⟨u, v, by omega, hv, hkey, hvjob.trans hmoves.job, hgone, hattempts, hfree⟩

end Pool

end ChainReplica
