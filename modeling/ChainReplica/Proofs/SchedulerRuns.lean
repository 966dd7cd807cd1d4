import ChainReplica.Proofs.JobFates
import ChainReplica.Proofs.SingleAttempts

/-!
# Schedulers as pools of workers

A scheduler makes some of the runs that a pool of workers may make: between two calls
every worker waits or is done with its job, and an attempt ends as soon as it is begun
(`Session.Shows`). So whatever is asked of a scheduler, there is a run of a pool with
the same submissions in which the same attempts end in the same way, and the tasks of
the scheduler are the live workers (`Session.exists_run`). What is so after every run
of a pool, whichever way workers take turns, is so for a scheduler.
-/

namespace ChainReplica

variable {J : Type}

def Task.trial (t : Task J) (done : Bool) : Trial J := ⟨t.key, t.job, done⟩

def Worker.task? (w : Worker J) : Option (Task J) :=
  match w.work with
  | .waiting due => some ⟨w.key, w.job, w.attempts, due, w.delay⟩
  | _ => none

theorem Worker.task?_eq_some {w : Worker J} {t : Task J} : w.task? = some t ↔
    w = ⟨t.key, t.job, t.attempts, t.delay, .waiting t.due⟩ := by
  obtain ⟨key, job, attempts, delay, work⟩ := w
  obtain ⟨key', job', attempts', due', delay'⟩ := t
  cases work <;> simp [task?]
  tauto

/-! ## What is asked of a scheduler -/

/-- A scheduler at a time, with the attempts that have been made. -/
structure Session (J : Type) where
  scheduler : Scheduler J
  now : Nat
  trials : List (Trial J)

namespace Session

/-- What is asked of a scheduler. A job may answer by all that was tried before. -/
inductive Call (J : Type) where
  | submit (key : String) (job : J)
  | advance (span : Nat)
  | wake (answer : Task J → List (Trial J) → Bool)

def new (initialDelay maxDelay : Nat) : Session J := ⟨.new initialDelay maxDelay, 0, []⟩

/-- An attempt that is written down. -/
def attempt (answer : Task J → List (Trial J) → Bool) (t : Task J) (trials : List (Trial J)) :
    Bool × List (Trial J) :=
  (answer t trials, trials ++ [t.trial (answer t trials)])

def pass (x : Session J) : Call J → Session J
  | .submit key job => { x with scheduler := x.scheduler.submit x.now key job }
  | .advance span => { x with now := x.now + span }
  | .wake answer =>
    let r := x.scheduler.wake x.now (attempt answer) x.trials
    { x with scheduler := r.1, trials := r.2 }

def after (x : Session J) : List (Call J) → Session J
  | [] => x
  | c :: rest => (x.pass c).after rest

def Call.submission? : Call J → Option (String × J)
  | .submit key job => some (key, job)
  | .advance _ | .wake _ => none

/-! ### No job is passed over -/

theorem attemptTask_tries (s : Scheduler J) (now : Nat) (answer : Task J → List (Trial J) → Bool) :
    ∀ (fuel : Nat) (t : Task J) (trials : List (Trial J)), ∃ more,
      (s.attemptTask now (attempt answer) fuel t trials).2 = trials ++ more
        ∧ (0 < fuel → ∃ done, t.trial done ∈ more)
  | 0, _, trials => ⟨[], (List.append_nil trials).symm, nofun⟩
  | fuel + 1, t, trials => by
      rw [Scheduler.attemptTask, attempt]
      cases answer t trials with
      | true => exact ⟨[t.trial true], rfl, fun _ => ⟨true, List.mem_cons_self⟩⟩
      | false =>
          simp only [Bool.false_eq_true, if_false]
          split
          · exact ⟨[t.trial false], rfl, fun _ => ⟨false, List.mem_cons_self⟩⟩
          · obtain ⟨more, hmore, -⟩ := attemptTask_tries s now answer fuel (s.retry now t)
              (trials ++ [t.trial false])
            exact ⟨t.trial false :: more, by rw [hmore, List.append_assoc]; rfl,
              fun _ => ⟨false, List.mem_cons_self⟩⟩

theorem attemptTasks_tries (s : Scheduler J) (now : Nat)
    (answer : Task J → List (Trial J) → Bool) : ∀ (tasks : List (Task J)) (trials : List (Trial J)),
    ∃ more, (s.attemptTasks now (attempt answer) tasks trials).2 = trials ++ more
      ∧ ∀ t ∈ tasks, ∃ done, t.trial done ∈ more
  | [], trials => ⟨[], (List.append_nil trials).symm, List.forall_mem_nil _⟩
  | t :: rest, trials => by
      obtain ⟨first, hfirst, htried⟩ :=
        attemptTask_tries s now answer Scheduler.patience t trials
      obtain ⟨later, hlater, hrest⟩ := attemptTasks_tries s now answer rest (trials ++ first)
      refine ⟨first ++ later, ?_, List.forall_mem_cons.mpr ⟨?_, fun u hu => ?_⟩⟩
      · simp only [Scheduler.attemptTasks, hfirst, hlater, List.append_assoc]
      · obtain ⟨done, hdone⟩ := htried (by decide)
        exact ⟨done, List.mem_append_left _ hdone⟩
      · obtain ⟨done, hdone⟩ := hrest u hu
        exact ⟨done, List.mem_append_right _ hdone⟩

theorem wake_tries (x : Session J) (answer : Task J → List (Trial J) → Bool) :
    ∃ more, (x.pass (.wake answer)).trials = x.trials ++ more
      ∧ ∀ t ∈ x.scheduler.tasks, t.due ≤ x.now → ∃ done, t.trial done ∈ more := by
  obtain ⟨more, hmore, htried⟩ := attemptTasks_tries x.scheduler x.now answer
    (Scheduler.byDue (x.scheduler.tasks.filter fun t => t.due ≤ x.now)) x.trials
  exact ⟨more, hmore, fun t ht hdue => htried t (Scheduler.mem_byDue_filter.mpr ⟨ht, hdue⟩)⟩

end Session

def Pool.Turn.submission? : Pool.Turn J → Option (String × J)
  | .submit key job => some (key, job)
  | .advance _ | .act _ _ => none

/-- A wait that strays by nothing. -/
theorem jittered_quarter (maxDelay delay : Nat) :
    jittered maxDelay ((min (2 * delay) maxDelay + 2) / 4) delay = min (2 * delay) maxDelay := by
  simp only [jittered]
  omega

/-! ## A worker at work -/

namespace Pool

variable {p : Pool J} {n : Nat} {w w' : Worker J} {run : List (Turn J)} {ts : List (Trial J)}

/-- What a run in which nobody moves but the worker at a place makes of a pool. -/
structure Worked (p : Pool J) (n : Nat) (run : List (Turn J)) (w : Worker J)
    (ts : List (Trial J)) : Prop where
  sound : (p.after run).Sound
  initialDelay : (p.after run).initialDelay = p.initialDelay
  maxDelay : (p.after run).maxDelay = p.maxDelay
  now : (p.after run).now = p.now
  trials : (p.after run).trials.map (·.2) = p.trials.map (·.2) ++ ts
  workers (i : Nat) : (p.after run).worker? i = if n = i then some w else p.worker? i
  silent : ∀ e ∈ run, e.submission? = none

namespace Worked

theorem start (h : p.Sound) (hn : p.worker? n = some w) : p.Worked n [] w [] where
  sound := h
  initialDelay := rfl
  maxDelay := rfl
  now := rfl
  trials := (List.append_nil _).symm
  workers i := by
    split
    · exact ‹n = i› ▸ hn
    · rfl
  silent := List.forall_mem_nil _

theorem move (h : p.Worked n run w ts) {m : Move} (hmoves : w.Moves p.now p.maxDelay m w') :
    p.Worked n (run ++ [.act n m]) w' (ts ++ w.tried m) := by
  have hn : (p.after run).worker? n = some w := by rw [h.workers, if_pos rfl]
  have hmoves' : w.Moves (p.after run).now (p.after run).maxDelay m w' := by
    rwa [h.now, h.maxDelay]
  have hafter : p.after (run ++ [.act n m]) = (p.after run).moved n m w w' := by
    rw [after_append, after, pass_act hn hmoves', after]
  refine ⟨?_, ?_, ?_, ?_, ?_, fun i => ?_, ?_⟩
  · exact hafter ▸ h.sound.moved hn hmoves'
  · exact (congrArg Pool.initialDelay hafter).trans h.initialDelay
  · exact (congrArg Pool.maxDelay hafter).trans h.maxDelay
  · exact (congrArg Pool.now hafter).trans h.now
  · have hplaced : ((w.tried m).map (n, ·)).map (·.2) = w.tried m := by
      rw [List.map_map]
      exact List.map_id _
    rw [hafter, moved, List.map_append, h.trials, hplaced, List.append_assoc]
  · rw [hafter, worker?_moved hn, h.workers]
    split <;> rfl
  · exact List.forall_mem_append.mpr ⟨h.silent, List.forall_mem_singleton.mpr rfl⟩

end Worked

end Pool

/-! ## A pool that shows a session -/

namespace Pool

variable {p : Pool J} {x : Session J} {n : Nat} {t : Task J} {w : Worker J}

/-- A pool is like a session between two calls. -/
structure Shows (p : Pool J) (x : Session J) : Prop where
  sound : p.Sound
  initialDelay : p.initialDelay = x.scheduler.initialDelay
  maxDelay : p.maxDelay = x.scheduler.maxDelay
  now : p.now = x.now
  trials : p.trials.map (·.2) = x.trials
  tasks (t : Task J) : t ∈ x.scheduler.tasks ↔ ∃ n w, p.worker? n = some w ∧ w.task? = some t
  /-- A live worker waits. -/
  waits {n : Nat} {w : Worker J} : p.worker? n = some w → w.Live → ∃ t, w.task? = some t
  distinct : (x.scheduler.tasks.map (·.key)).Nodup
  released : x.scheduler.finished = []

namespace Shows

theorem new (initialDelay maxDelay : Nat) :
    (Pool.new initialDelay maxDelay : Pool J).Shows (.new initialDelay maxDelay) where
  sound := .new initialDelay maxDelay
  initialDelay := rfl
  maxDelay := rfl
  now := rfl
  trials := rfl
  tasks _ := ⟨fun h => (List.not_mem_nil h).elim, fun ⟨_, _, h, _⟩ => nomatch h⟩
  waits h := nomatch h
  distinct := List.nodup_nil
  released := rfl

theorem isRunning (h : p.Shows x) (key : String) :
    x.scheduler.isRunning key = p.isRunning key := by
  rw [Bool.eq_iff_iff, Scheduler.isRunning_iff, Scheduler.mem_keys, h.released,
    h.sound.isRunning_iff]
  constructor
  · rintro (⟨t, ht, rfl⟩ | hfinished)
    · obtain ⟨n, w, hn, htask⟩ := (h.tasks t).mp ht
      obtain rfl := Worker.task?_eq_some.mp htask
      exact ⟨n, _, hn, nofun, rfl⟩
    · cases hfinished
  · rintro ⟨n, w, hn, hlive, rfl⟩
    obtain ⟨t, htask⟩ := h.waits hn hlive
    refine Or.inl ⟨t, (h.tasks t).mpr ⟨n, w, hn, htask⟩, ?_⟩
    rw [Worker.task?_eq_some.mp htask]

theorem submit (h : p.Shows x) (key : String) (job : J) :
    (p.submit key job).Shows (x.pass (.submit key job)) := by
  have hsame := h.isRunning key
  rw [Session.pass, Scheduler.submit]
  cases hrunning : p.isRunning key with
  | true =>
      rw [submit_of_taken hrunning, if_pos (hsame.trans hrunning)]
      exact h
  | false =>
      have hfree : key ∉ p.running := of_decide_eq_false hrunning
      have hfresh : (p.fresh key job).task? =
          some ⟨key, job, 0, x.now, x.scheduler.initialDelay⟩ := by
        rw [fresh, h.now, h.initialDelay]
        rfl
      have hnodup : ((x.scheduler.submit x.now key job).tasks.map (·.key)).Nodup :=
        Scheduler.nodup_submit h.distinct x.now job
      rw [Scheduler.submit] at hnodup
      rw [submit_of_free hfree]
      rw [hsame, hrunning, if_neg Bool.false_ne_true] at hnodup ⊢
      refine ⟨h.sound.took hfree, h.initialDelay, h.maxDelay, h.now, h.trials, fun t => ?_,
        fun {n w} hn hlive => ?_, hnodup, h.released⟩
      · rw [List.mem_append, List.mem_singleton, h.tasks]
        constructor
        · rintro (⟨n, w, hn, htask⟩ | rfl)
          · refine ⟨n, w, ?_, htask⟩
            rw [worker?_took, if_neg, hn]
            rintro rfl
            cases worker?_length.symm.trans hn
          · exact ⟨_, _, by rw [worker?_took, if_pos rfl], hfresh⟩
        · rintro ⟨n, w, hn, htask⟩
          rw [worker?_took] at hn
          split at hn
          · cases hn
            exact Or.inr (Option.some.inj (htask.symm.trans hfresh))
          · exact Or.inl ⟨n, w, hn, htask⟩
      · rw [worker?_took] at hn
        split at hn
        · cases hn
          exact ⟨_, hfresh⟩
        · exact h.waits hn hlive

/-- The work of one worker is the turn of its task. -/
theorem turn {s : Scheduler J} {waiting : List (Task J)} {now : Nat} {trials : List (Trial J)}
    {run : List (Turn J)} {v : Worker J}
    (h : p.Shows ⟨s.keeping waiting, now, trials⟩) (done : Bool) (hn : p.worker? n = some w)
    (htask : w.task? = some t) (hworked : p.Worked n run v [t.trial done])
    (hv : v.task? = if done then none else some (s.retry now t)) (hlive : v.Live → done = false) :
    (p.after run).Shows ⟨s.keeping (waiting.filter (·.key != t.key)
      ++ (if done then none else some (s.retry now t)).toList), now, trials ++ [t.trial done]⟩ := by
  have halive : ∀ {w' : Worker J} {u : Task J}, w'.task? = some u → w'.Live ∧ w'.key = u.key := by
    intro w' u htask'
    rw [Worker.task?_eq_some.mp htask']
    exact ⟨nofun, rfl⟩
  refine ⟨hworked.sound, hworked.initialDelay.trans h.initialDelay,
    hworked.maxDelay.trans h.maxDelay, hworked.now.trans h.now, ?_, fun u => ?_,
    fun {i v'} hi hvlive => ?_, ?_, h.released⟩
  · rw [hworked.trials, h.trials]
  · change u ∈ _ ++ _ ↔ _
    rw [List.mem_append, List.mem_filter, Option.mem_toList, ← hv, bne_iff_ne,
      show u ∈ waiting ↔ _ from h.tasks u]
    constructor
    · rintro (⟨⟨i, w', hi, htask'⟩, hne⟩ | hnew)
      · refine ⟨i, w', ?_, htask'⟩
        rw [hworked.workers, if_neg, hi]
        rintro rfl
        cases hn.symm.trans hi
        exact hne (congrArg Task.key (Option.some.inj (htask'.symm.trans htask)))
      · exact ⟨n, v, by rw [hworked.workers, if_pos rfl], hnew⟩
    · rintro ⟨i, w', hi, htask'⟩
      rw [hworked.workers] at hi
      split at hi
      · cases hi
        exact Or.inr htask'
      · refine Or.inl ⟨⟨i, w', hi, htask'⟩, fun hkey => ‹¬n = i› ?_⟩
        exact h.sound.single hn hi (halive htask).1 (halive htask').1
          ((halive htask).2.trans (hkey.symm.trans (halive htask').2.symm))
  · rw [hworked.workers] at hi
    split at hi
    · cases hi
      rw [hv, hlive hvlive]
      exact ⟨_, rfl⟩
    · exact h.waits hi hvlive
  · have hnodup : ((waiting.filter (·.key != t.key)
        ++ if done then [] else [s.retry now t]).map (·.key)).Nodup :=
      Scheduler.nodup_turn h.distinct done rfl
    cases done <;> exact hnodup

/-- A single attempt of a scheduler: a worker begins one and ends it, and gives the key
back if the job is done. -/
theorem attempt {s : Scheduler J} {waiting : List (Task J)} {now : Nat} {trials : List (Trial J)}
    (h : p.Shows ⟨s.keeping waiting, now, trials⟩) (ht : t ∈ waiting) (hdue : t.due ≤ now)
    (answer : Task J → List (Trial J) → Bool) :
    let r := s.attemptTask now (Session.attempt answer) 1 t trials
    ∃ run, (∀ e ∈ run, e.submission? = none) ∧ (p.after run).Shows
      ⟨s.keeping (waiting.filter (·.key != t.key) ++ r.1.toList), now, r.2⟩ := by
  obtain ⟨n, w, hn, htask⟩ := (h.tasks t).mp ht
  obtain rfl := Worker.task?_eq_some.mp htask
  have hnow : p.now = now := h.now
  have hmax : p.maxDelay = s.maxDelay := h.maxDelay
  have hbegun := (Worked.start h.sound hn).move (.began rfl (hnow ▸ hdue))
  rw [Scheduler.attemptTask_one]
  cases hdone : answer t trials with
  | false =>
      -- The wait is twice the one before, as if it had not been left to chance.
      let draw := (min (2 * t.delay) p.maxDelay + 2) / 4
      have hdelay : jittered p.maxDelay draw t.delay = min (2 * t.delay) s.maxDelay :=
        (jittered_quarter _ _).trans (hmax ▸ rfl)
      have hfailed := hbegun.move (.failed rfl draw)
      simp only [Session.attempt, hdone]
      refine ⟨_, hfailed.silent, h.turn false hn htask hfailed ?_ fun _ => rfl⟩
      rw [Scheduler.retry, ← hnow, ← hdelay]
      rfl
  | true =>
      have hended := (hbegun.move (.succeeded rfl 0)).move (.released rfl)
      simp only [Session.attempt, hdone]
      exact ⟨_, hended.silent, h.turn true hn htask hended rfl fun hlive =>
        absurd rfl hlive⟩

theorem wake (h : p.Shows x) (answer : Task J → List (Trial J) → Bool) :
    ∃ run, (∀ e ∈ run, e.submission? = none) ∧ (p.after run).Shows (x.pass (.wake answer)) := by
  have hkept : x.scheduler.Kept x.now (Session.attempt answer) fun waiting trials =>
      ∃ run : List (Turn J), (∀ e ∈ run, e.submission? = none)
        ∧ (p.after run).Shows ⟨x.scheduler.keeping waiting, x.now, trials⟩ := by
    rintro waiting t trials ⟨run, hrun, hshows⟩ hfind hdue
    obtain ⟨more, hmore, hnext⟩ :=
      hshows.attempt (List.mem_of_find?_eq_some hfind) hdue answer
    exact ⟨run ++ more, List.forall_mem_append.mpr ⟨hrun, hmore⟩, by rwa [after_append]⟩
  exact hkept.wake h.distinct ⟨[], List.forall_mem_nil _, h⟩

theorem pass (h : p.Shows x) (c : Session.Call J) : ∃ run : List (Turn J),
    run.filterMap Turn.submission? = c.submission?.toList ∧ (p.after run).Shows (x.pass c) := by
  cases c with
  | submit key job => exact ⟨[.submit key job], rfl, h.submit key job⟩
  | advance span =>
      refine ⟨[.advance span], rfl, ?_⟩
      exact ⟨h.sound.passes (.aged span), h.initialDelay, h.maxDelay,
        congrArg (· + span) h.now, h.trials, h.tasks, h.waits, h.distinct,
        h.released⟩
  | wake answer =>
      obtain ⟨run, hrun, hshows⟩ := h.wake answer
      exact ⟨run, List.filterMap_eq_nil_iff.mpr hrun, hshows⟩

/-- Whatever is asked of a scheduler, a pool can do, with the same submissions. -/
theorem after : ∀ (calls : List (Session.Call J)) {p : Pool J} {x : Session J}, p.Shows x →
    ∃ run : List (Turn J), run.filterMap Turn.submission? =
        calls.filterMap Session.Call.submission?
      ∧ (p.after run).Shows (x.after calls)
  | [], _, _, h => ⟨[], rfl, h⟩
  | c :: rest, p, x, h => by
      obtain ⟨run, hrun, hpass⟩ := h.pass c
      obtain ⟨more, hmore, hrest⟩ := Shows.after rest hpass
      refine ⟨run ++ more, ?_, by rw [Pool.after_append]; exact hrest⟩
      rw [List.filterMap_append, hrun, hmore, List.filterMap_cons]
      cases c.submission? <;> rfl

end Shows

/-! ## Every job is retried until it is done -/

theorem after_initialDelay (run : List (Turn J)) (p : Pool J) :
    (p.after run).initialDelay = p.initialDelay :=
  after_keeps (P := fun q => q.initialDelay = p.initialDelay) (fun h hpass => by
    cases hpass <;> exact h) run rfl

/-- Jobs that are retried, in every run. No two live workers have one key, and a key is
taken exactly while a worker with it is alive. A submission of a taken key changes
nothing, so that its job is never attempted; a submission of a free key puts a new
worker on the job, which is due at once and waits the first wait after its first
failure. What a worker has tried are failures, and a success at last once it has
finished; its key is given back only then, and for good.

In an endless run that is fair to it, a worker whose job succeeds after some failures
attempts it once more than it fails, and gives the key back.

A scheduler, whatever is asked of it, goes through such a run: the same submissions,
the same attempts with the same ends, and its tasks are the live workers. When it wakes
up, it passes over no job that is due. -/
theorem retries_until_done (initialDelay maxDelay : Nat) :
    (∀ run : List (Turn J), let p := (Pool.new initialDelay maxDelay : Pool J).after run
      (∀ i n v w, p.worker? i = some v → p.worker? n = some w → v.Live → w.Live →
          v.key = w.key → i = n)
        ∧ (∀ key, p.isRunning key = true ↔ ∃ n w, p.worker? n = some w ∧ w.Live ∧ w.key = key)
        ∧ (∀ key job, p.isRunning key = true → p.pass (.submit key job) = p)
        ∧ (∀ key job, p.isRunning key = false → p.pass (.submit key job) =
          { p with
            running := insert key p.running
            workers := p.workers ++ [⟨key, job, 0, initialDelay, .waiting p.now⟩] })
        ∧ p.submissions = (Pool.new initialDelay maxDelay).accepted run
        ∧ (∀ n w, p.worker? n = some w → w.Fits (p.trialsOf n)
          ∧ (p.trialsOf n = [] → w.delay = initialDelay))
        ∧ (∀ n, p.worker? n = none → p.trialsOf n = [])
        ∧ ∀ n w, p.worker? n = some w → w.work = .gone → ∀ more,
          (p.after more).worker? n = some w)
      ∧ (∀ (turns : Nat → Turn J) n k,
        let p := (Pool.new initialDelay maxDelay : Pool J).during turns
        (Pool.new initialDelay maxDelay).Fair turns n →
          (Pool.new initialDelay maxDelay).FailsFirst turns n k →
            ∀ t w, (p t).worker? n = some w → w.Live → ∃ u v, t ≤ u ∧ (p u).worker? n = some v
              ∧ v.key = w.key ∧ v.job = w.job ∧ v.work = .gone ∧ v.attempts = k + 1
              ∧ (p u).isRunning w.key = false)
      ∧ ∀ calls : List (Session.Call J), ∃ run : List (Turn J),
        let x := (Session.new initialDelay maxDelay).after calls
        let p := (Pool.new initialDelay maxDelay).after run
        run.filterMap Turn.submission? = calls.filterMap Session.Call.submission?
          ∧ p.now = x.now ∧ p.trials.map (·.2) = x.trials
          ∧ (∀ t, t ∈ x.scheduler.tasks ↔ ∃ n w, p.worker? n = some w ∧ w.task? = some t)
          ∧ (∀ key, x.scheduler.isRunning key = p.isRunning key)
          ∧ ∀ answer, ∃ more, (x.pass (.wake answer)).trials = x.trials ++ more
            ∧ ∀ t ∈ x.scheduler.tasks, t.due ≤ x.now → ∃ done, t.trial done ∈ more := by
  refine ⟨fun run => ?_, fun turns n k => ?_, fun calls => ?_⟩
  · intro p
    have hsound : p.Sound := (Sound.new initialDelay maxDelay).after run
    have hdelay : p.initialDelay = initialDelay := after_initialDelay run _
    refine ⟨fun i n v w => hsound.single, fun key => hsound.isRunning_iff,
      fun key job htaken => submit_of_taken htaken, fun key job hfree => ?_,
      submissions_after run _, fun n w hn => ⟨hsound.fits hn, fun htrials => ?_⟩,
      fun n => hsound.unborn, fun n w hn hgone more => after_gone hn hgone more⟩
    · rw [pass, submit_of_free (of_decide_eq_false hfree), took, fresh, hdelay]
    · exact (hsound.initial hn htrials).trans hdelay
  · intro p hfair hjob t w hn hlive
    exact hfair.released hjob hn hlive
  · obtain ⟨run, hsame, hshows⟩ := (Shows.new initialDelay maxDelay).after calls
    exact ⟨run, hsame, hshows.now, hshows.trials, hshows.tasks, hshows.isRunning,
      Session.wake_tries _⟩

/-- A job that fails once. After that the clock goes on. -/
def failingOnce : Nat → Turn Nat
  | 0 => .submit "flaky" 0
  | 1 => .act 0 .begin
  | 2 => .act 0 (.finish false 0)
  | 3 => .advance 5
  | 4 => .act 0 .begin
  | 5 => .act 0 (.finish true 0)
  | 6 => .act 0 .release
  | _ => .advance 1

theorem retries_until_done_once : ∃ u v,
    (((new 5 20).during failingOnce) u).worker? 0 = some v ∧ v.work = .gone ∧ v.attempts = 2
      ∧ (((new 5 20).during failingOnce) u).isRunning "flaky" = false := by
  have hlate : ∀ d, ∃ w, ((new 5 20).during failingOnce (d + 7)).worker? 0 = some w
      ∧ w.work = .gone ∧ ((new 5 20).during failingOnce (d + 7)).now = 5 + d := by
    intro d
    induction d with
    | zero => exact ⟨_, rfl, rfl, rfl⟩
    | succ d ih =>
        obtain ⟨w, hn, hgone, hnow⟩ := ih
        exact ⟨w, hn, hgone, congrArg (· + 1) hnow⟩
  have hfair : (new 5 20).Fair failingOnce 0 := by
    refine ⟨fun time => ?_, fun {t w w' m} hn hmoves => ?_⟩
    · obtain ⟨-, -, -, hnow⟩ := hlate time
      exact ⟨time + 7, by omega⟩
    · rcases t with _ | _ | _ | _ | _ | _ | _ | t
      · cases hn
      · exact ⟨1, _, Nat.le_refl _, rfl, _, _, rfl, .began rfl (Nat.le_refl _)⟩
      · exact ⟨2, _, Nat.le_refl _, rfl, _, _, rfl, .failed rfl 0⟩
      · exact ⟨4, _, by decide, rfl, _, _, rfl, .began rfl (by decide)⟩
      · exact ⟨4, _, Nat.le_refl _, rfl, _, _, rfl, .began rfl (by decide)⟩
      · exact ⟨5, _, Nat.le_refl _, rfl, _, _, rfl, .succeeded rfl 0⟩
      · exact ⟨6, _, Nat.le_refl _, rfl, _, _, rfl, .released rfl⟩
      · obtain ⟨v, hv, hgone, -⟩ := hlate t
        cases hv.symm.trans hn
        exact absurd hgone hmoves.live.1
  have hjob : (new 5 20).FailsFirst failingOnce 0 1 := by
    intro t w done draw hn hwork hturn
    rcases t with _ | _ | _ | _ | _ | _ | _ | t <;> cases hturn <;> cases hn <;> rfl
  obtain ⟨-, hfate, -⟩ := retries_until_done (J := Nat) 5 20
  obtain ⟨u, v, -, hv, -, -, hgone, hattempts, hfree⟩ :=
    hfate failingOnce 0 1 hfair hjob 1 _ rfl nofun
  exact ⟨u, v, hv, hgone, hattempts, hfree⟩

/-- A key is submitted four times: in an attempt, after the last one, and when it is free
again. -/
example :
    let p := (Pool.new 5 20).after [.submit "flaky" 0, .act 0 .begin, .submit "flaky" 1,
      .act 0 (.finish false 2), .advance 5, .act 0 .begin, .act 0 (.finish true 0),
      .submit "flaky" 2, .act 0 .release, .submit "flaky" 3]
    p.submissions = [("flaky", 0), ("flaky", 3)]
      ∧ (p.trials.map fun e => (e.1, e.2.done)) = [(0, false), (0, true)]
      ∧ p.isRunning "flaky" = true := by
  decide

end Pool

end ChainReplica
