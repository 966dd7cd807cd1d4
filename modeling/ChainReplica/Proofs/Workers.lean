import Mathlib.Data.Finset.Basic
import ChainReplica.Scheduler

/-!
# Workers that retry jobs

A scheduler attempts the jobs that are due in one go. A `Pool` is finer. Every job
that is accepted has a worker of its own, the taken keys are kept apart from the
workers, and attempts take time: a worker begins one when it is due, ends it, waits or
gives its key back, and anything may happen between two moves. What a job answers,
and by how much a wait strays from twice the one before, is part of a move, so that
nothing is assumed about it.

The keys that are taken are those of the live workers, no two of which have the same
(`Pool.Sound`), and what a worker has tried decides how far its work has come
(`Worker.Fits`): it failed so far, or it failed until its last attempt. This holds
after every run (`Pool.after_sound`), whatever the order of the moves.
-/

namespace ChainReplica

variable {J : Type}

/-! ## Workers -/

/-- How far the work on a job has come. -/
inductive Work where
  | waiting (due : Nat)
  | trying
  /-- The job is done, and its key is still taken. -/
  | finished
  /-- The key was given back. -/
  | gone
  deriving DecidableEq

/-- How an attempt at a job ended. -/
structure Trial (J : Type) where
  key : String
  job : J
  done : Bool

/-- A job that was accepted. -/
structure Worker (J : Type) where
  key : String
  job : J
  /-- How many attempts were begun. -/
  attempts : Nat
  /-- How long it waits after its next failure. -/
  delay : Nat
  work : Work

inductive Move where
  | begin
  /-- An attempt ends; after a failure the draw decides about the wait after the next. -/
  | finish (done : Bool) (draw : Nat)
  | release
  deriving DecidableEq

/-- Twice a wait, up to a greatest one, and up to a quarter more or less. -/
def jittered (maxDelay draw delay : Nat) : Nat :=
  let doubled := min (2 * delay) maxDelay
  let quarter := (doubled + 2) / 4
  doubled - quarter + min draw (2 * quarter)

namespace Worker

variable {w w' : Worker J} {now maxDelay : Nat} {m : Move} {trials : List (Trial J)}

def Live (w : Worker J) : Prop := w.work ≠ .gone

def trial (w : Worker J) (done : Bool) : Trial J := ⟨w.key, w.job, done⟩

/-- The worker after a move, if it can make it. -/
def after? (w : Worker J) (now maxDelay : Nat) : Move → Option (Worker J)
  | .begin => match w.work with
    | .waiting due =>
      if due ≤ now then some { w with attempts := w.attempts + 1, work := .trying } else none
    | _ => none
  | .finish done draw =>
    if w.work = .trying then some <|
      if done then { w with work := .finished }
      else { w with delay := jittered maxDelay draw w.delay, work := .waiting (now + w.delay) }
    else none
  | .release => if w.work = .finished then some { w with work := .gone } else none

/-- What a move adds to what was tried. -/
def tried (w : Worker J) : Move → List (Trial J)
  | .finish done _ => [w.trial done]
  | .begin | .release => []

/-- Everything that a move can do to a worker. -/
inductive Moves (now maxDelay : Nat) (w : Worker J) : Move → Worker J → Prop where
  | began {due : Nat} (hwork : w.work = .waiting due) (hdue : due ≤ now) :
      Moves now maxDelay w .begin { w with attempts := w.attempts + 1, work := .trying }
  | failed (hwork : w.work = .trying) (draw : Nat) :
      Moves now maxDelay w (.finish false draw)
        { w with delay := jittered maxDelay draw w.delay, work := .waiting (now + w.delay) }
  | succeeded (hwork : w.work = .trying) (draw : Nat) :
      Moves now maxDelay w (.finish true draw) { w with work := .finished }
  | released (hwork : w.work = .finished) :
      Moves now maxDelay w .release { w with work := .gone }

theorem after?_eq_some : w.after? now maxDelay m = some w' ↔ w.Moves now maxDelay m w' := by
  constructor
  · intro h
    cases m with
    | begin =>
        rw [after?] at h
        split at h
        · split at h
          · cases h
            exact .began ‹_› ‹_›
          · cases h
        · cases h
    | finish done draw =>
        rw [after?] at h
        split at h
        · cases done <;> cases h
          · exact .failed ‹_› draw
          · exact .succeeded ‹_› draw
        · cases h
    | release =>
        rw [after?] at h
        split at h
        · cases h
          exact .released ‹_›
        · cases h
  · rintro (⟨hwork, hdue⟩ | ⟨hwork, draw⟩ | ⟨hwork, draw⟩ | ⟨hwork⟩)
    · simp only [after?, hwork, if_pos hdue]
    · simp [after?, hwork]
    · simp [after?, hwork]
    · simp [after?, hwork]

/-- A move ends the life of a worker exactly if it gives the key back. -/
theorem Moves.live (h : w.Moves now maxDelay m w') : w.Live ∧ (w'.Live ↔ m ≠ .release) := by
  cases h <;> simp [Live, *]

theorem Moves.key (h : w.Moves now maxDelay m w') : w'.key = w.key := by
  cases h <;> rfl

theorem Moves.job (h : w.Moves now maxDelay m w') : w'.job = w.job := by
  cases h <;> rfl

theorem Moves.delay (h : w.Moves now maxDelay m w') (htried : w.tried m = []) :
    w'.delay = w.delay := by
  cases h with
  | began => rfl
  | released => rfl
  | _ => cases htried

theorem Moves.trial (h : w.Moves now maxDelay m w') : w'.trial = w.trial := by
  cases h <;> rfl

/-- What was tried fits the work: an attempt is made after failures only, and it is the
last one if the job is done. -/
def Fits (w : Worker J) (trials : List (Trial J)) : Prop :=
  match w.work with
  | .waiting _ => trials = List.replicate w.attempts (w.trial false)
  | .trying => ∃ k, w.attempts = k + 1 ∧ trials = List.replicate k (w.trial false)
  | .finished | .gone =>
    ∃ k, w.attempts = k + 1 ∧ trials = List.replicate k (w.trial false) ++ [w.trial true]

theorem Moves.fits (h : w.Moves now maxDelay m w') (hfits : w.Fits trials) :
    w'.Fits (trials ++ w.tried m) := by
  cases h with
  | began hwork hdue =>
      rw [Fits, hwork] at hfits
      exact ⟨w.attempts, rfl, (List.append_nil trials).trans hfits⟩
  | failed hwork draw =>
      rw [Fits, hwork] at hfits
      obtain ⟨k, hattempts, rfl⟩ := hfits
      change List.replicate k (w.trial false) ++ [w.trial false] = List.replicate w.attempts _
      rw [hattempts, List.replicate_succ']
      rfl
  | succeeded hwork draw =>
      rw [Fits, hwork] at hfits
      obtain ⟨k, hattempts, rfl⟩ := hfits
      exact ⟨k, hattempts, rfl⟩
  | released hwork =>
      rw [Fits, hwork] at hfits
      obtain ⟨k, hattempts, rfl⟩ := hfits
      exact ⟨k, hattempts, List.append_nil _⟩

end Worker

/-! ## Pools -/

/-- Workers, and the keys that are taken. -/
structure Pool (J : Type) where
  initialDelay : Nat
  maxDelay : Nat
  now : Nat
  running : Finset String
  /-- The jobs that were accepted, in order. -/
  workers : List (Worker J)
  /-- The attempts that have ended, in order, with the places of the workers. -/
  trials : List (Nat × Trial J)

namespace Pool

inductive Turn (J : Type) where
  | submit (key : String) (job : J)
  | advance (span : Nat)
  /-- The worker at a place makes a move. -/
  | act (n : Nat) (m : Move)

variable {p : Pool J} {n : Nat} {w w' : Worker J} {m : Move} {key : String} {job : J}

def new (initialDelay maxDelay : Nat) : Pool J := ⟨initialDelay, maxDelay, 0, ∅, [], []⟩

def isRunning (p : Pool J) (key : String) : Bool := decide (key ∈ p.running)

def worker? (p : Pool J) (n : Nat) : Option (Worker J) := p.workers[n]?

/-- What the worker at a place has tried, in order. -/
def trialsOf (p : Pool J) (n : Nat) : List (Trial J) := (p.trials.filter (·.1 == n)).map (·.2)

def fresh (p : Pool J) (key : String) (job : J) : Worker J :=
  ⟨key, job, 0, p.initialDelay, .waiting p.now⟩

/-- Takes a key and puts a worker on the job. -/
def took (p : Pool J) (key : String) (job : J) : Pool J :=
  { p with running := insert key p.running, workers := p.workers ++ [p.fresh key job] }

def submit (p : Pool J) (key : String) (job : J) : Pool J :=
  if p.isRunning key then p else p.took key job

/-- Puts a worker that has made a move in its place. -/
def moved (p : Pool J) (n : Nat) (m : Move) (w w' : Worker J) : Pool J :=
  { p with
    running := if m = .release then p.running.erase w.key else p.running
    workers := p.workers.set n w'
    trials := p.trials ++ (w.tried m).map (n, ·) }

def pass (p : Pool J) : Turn J → Pool J
  | .submit key job => p.submit key job
  | .advance span => { p with now := p.now + span }
  | .act n m => match p.worker? n with
    | none => p
    | some w => match w.after? p.now p.maxDelay m with
      | none => p
      | some w' => p.moved n m w w'

def after (p : Pool J) : List (Turn J) → Pool J
  | [] => p
  | e :: rest => (p.pass e).after rest

/-! ## What happens in a turn -/

inductive Passes (p : Pool J) : Turn J → Pool J → Prop where
  /-- The key is taken, or the worker cannot make the move. -/
  | still {e : Turn J} : Passes p e p
  | accepted {key : String} (job : J) (hfree : key ∉ p.running) :
      Passes p (.submit key job) (p.took key job)
  | aged (span : Nat) : Passes p (.advance span) { p with now := p.now + span }
  | acted {n : Nat} {m : Move} {w w' : Worker J} (hn : p.worker? n = some w)
      (hmoves : w.Moves p.now p.maxDelay m w') : Passes p (.act n m) (p.moved n m w w')

theorem submit_of_free (hfree : key ∉ p.running) : p.submit key job = p.took key job := by
  rw [submit, isRunning, decide_eq_false hfree]
  rfl

theorem submit_of_taken (htaken : p.isRunning key = true) : p.submit key job = p := by
  rw [submit, if_pos htaken]

theorem pass_act (hn : p.worker? n = some w) (hmoves : w.Moves p.now p.maxDelay m w') :
    p.pass (.act n m) = p.moved n m w w' := by
  simp only [pass, hn, Worker.after?_eq_some.mpr hmoves]

theorem passes (p : Pool J) (e : Turn J) : p.Passes e (p.pass e) := by
  cases e with
  | submit key job =>
      by_cases hfree : key ∈ p.running
      · rw [pass, submit_of_taken (decide_eq_true hfree)]
        exact .still
      · rw [pass, submit_of_free hfree]
        exact .accepted job hfree
  | advance span => exact .aged span
  | act n m =>
      rw [pass]
      split
      · exact .still
      · split
        · exact .still
        · exact .acted ‹_› (Worker.after?_eq_some.mp ‹_›)

theorem after_append : ∀ (run more : List (Turn J)) (p : Pool J),
    p.after (run ++ more) = (p.after run).after more
  | [], _, _ => rfl
  | e :: rest, more, p => after_append rest more (p.pass e)

/-- What no turn breaks holds after a run if it holds before. -/
theorem after_keeps {P : Pool J → Prop}
    (hpass : ∀ {p p' : Pool J} {e : Turn J}, P p → p.Passes e p' → P p') :
    ∀ (run : List (Turn J)) {p : Pool J}, P p → P (p.after run)
  | [], _, h => h
  | e :: rest, p, h => after_keeps hpass rest (hpass h (p.passes e))

/-! ### Places -/

theorem worker?_moved (hn : p.worker? n = some w) (i : Nat) :
    (p.moved n m w w').worker? i = if n = i then some w' else p.worker? i := by
  have hlt : n < p.workers.length := (List.getElem?_eq_some_iff.mp hn).1
  change (p.workers.set n w')[i]? = _
  rw [List.getElem?_set, if_pos hlt]
  rfl

theorem worker?_took (i : Nat) : (p.took key job).worker? i =
    if p.workers.length = i then some (p.fresh key job) else p.worker? i := by
  change (p.workers ++ [p.fresh key job])[i]? = _
  split
  · subst i
    exact List.getElem?_concat_length
  · rcases Nat.lt_or_ge i p.workers.length with hlt | hge
    · exact List.getElem?_append_left hlt
    · rw [worker?, List.getElem?_eq_none hge, List.getElem?_eq_none]
      rw [List.length_append, List.length_singleton]
      omega

theorem worker?_length : p.worker? p.workers.length = none :=
  List.getElem?_eq_none (Nat.le_refl _)

theorem trialsOf_moved (i : Nat) :
    (p.moved n m w w').trialsOf i = p.trialsOf i ++ if n = i then w.tried m else [] := by
  have hnew : (((w.tried m).map (n, ·)).filter (·.1 == i)).map (·.2) =
      if n = i then w.tried m else [] := by
    by_cases hni : n = i <;> simp [List.filter_map, Function.comp_def, hni]
  rw [trialsOf, moved, List.filter_append, List.map_append, hnew]
  rfl

/-! ## Soundness -/

/-- What is so in every pool. -/
structure Sound (p : Pool J) : Prop where
  /-- The keys that are taken are those of the live workers. -/
  taken (key : String) :
    key ∈ p.running ↔ ∃ n w, p.worker? n = some w ∧ w.Live ∧ w.key = key
  single {i n : Nat} {v w : Worker J} : p.worker? i = some v → p.worker? n = some w →
    v.Live → w.Live → v.key = w.key → i = n
  fits {n : Nat} {w : Worker J} : p.worker? n = some w → w.Fits (p.trialsOf n)
  /-- Before its first failure a worker has the wait that all begin with. -/
  initial {n : Nat} {w : Worker J} : p.worker? n = some w → p.trialsOf n = [] →
    w.delay = p.initialDelay
  unborn {n : Nat} : p.worker? n = none → p.trialsOf n = []

namespace Sound

theorem new (initialDelay maxDelay : Nat) : (Pool.new initialDelay maxDelay : Pool J).Sound where
  taken key := ⟨fun h => absurd h (Finset.notMem_empty key), fun ⟨_, _, h, _⟩ => nomatch h⟩
  single h := nomatch h
  fits h := nomatch h
  initial h := nomatch h
  unborn _ := rfl

theorem took (h : p.Sound) (hfree : key ∉ p.running) : (p.took key job).Sound := by
  have hnew : ∀ {n w}, p.worker? n = some w → w.Live → w.key ≠ key := fun hn hlive hkey =>
    hfree ((h.taken key).mpr ⟨_, _, hn, hlive, hkey⟩)
  have hlive : (p.fresh key job).Live := nofun
  refine ⟨fun other => ?_, fun {i n v w} hi hn hv hw hsame => ?_, fun {n w} hn => ?_,
    fun {n w} hn htrials => ?_, fun {n} hn => ?_⟩
  · change other ∈ insert key p.running ↔ _
    rw [Finset.mem_insert, h.taken other]
    constructor
    · rintro (rfl | ⟨n, w, hn, hw, hkey⟩)
      · exact ⟨p.workers.length, _, by rw [worker?_took, if_pos rfl], hlive, rfl⟩
      · refine ⟨n, w, ?_, hw, hkey⟩
        rw [worker?_took, if_neg, hn]
        rintro rfl
        cases worker?_length.symm.trans hn
    · rintro ⟨n, w, hn, hw, hkey⟩
      rw [worker?_took] at hn
      split at hn
      · cases hn
        exact Or.inl hkey.symm
      · exact Or.inr ⟨n, w, hn, hw, hkey⟩
  · rw [worker?_took] at hi hn
    split at hi <;> split at hn
    · omega
    · cases hi
      exact absurd hsame.symm (hnew hn hw)
    · cases hn
      exact absurd hsame (hnew hi hv)
    · exact h.single hi hn hv hw hsame
  · rw [worker?_took] at hn
    split at hn
    · subst n
      cases hn
      exact h.unborn worker?_length
    · exact h.fits hn
  · rw [worker?_took] at hn
    split at hn
    · cases hn
      rfl
    · exact h.initial hn htrials
  · rw [worker?_took] at hn
    split at hn
    · cases hn
    · exact h.unborn hn

/-- A worker that is alive after a move was so before, with the same key. -/
theorem live_of_moved (hn : p.worker? n = some w) (hmoves : w.Moves p.now p.maxDelay m w')
    {i : Nat} {v : Worker J} (hi : (p.moved n m w w').worker? i = some v) (hv : v.Live) :
    ∃ u, p.worker? i = some u ∧ u.Live ∧ u.key = v.key := by
  rw [worker?_moved hn] at hi
  split at hi
  · subst i
    cases hi
    exact ⟨w, hn, hmoves.live.1, hmoves.key.symm⟩
  · exact ⟨v, hi, hv, rfl⟩

/-- The keys of the live workers after a move. -/
theorem keys_moved (h : p.Sound) (hn : p.worker? n = some w)
    (hmoves : w.Moves p.now p.maxDelay m w') (key : String) :
    (∃ i v, (p.moved n m w w').worker? i = some v ∧ v.Live ∧ v.key = key) ↔
      key ∈ p.running ∧ (m = .release → key ≠ w.key) := by
  obtain ⟨hlive, hstill⟩ := hmoves.live
  constructor
  · rintro ⟨i, v, hi, hv, hkey⟩
    obtain ⟨u, hu, hulive, hsame⟩ := live_of_moved hn hmoves hi hv
    refine ⟨(h.taken key).mpr ⟨i, u, hu, hulive, hsame.trans hkey⟩, fun hm heq => ?_⟩
    obtain rfl := h.single hu hn hulive hlive (hsame.trans (hkey.trans heq))
    rw [worker?_moved hn, if_pos rfl] at hi
    cases hi
    exact hstill.mp hv hm
  · rintro ⟨hmem, hother⟩
    obtain ⟨i, v, hi, hv, hkey⟩ := (h.taken key).mp hmem
    by_cases hni : n = i
    · subst i
      cases hn.symm.trans hi
      exact ⟨n, w', by rw [worker?_moved hn, if_pos rfl],
        hstill.mpr fun hm => hother hm hkey.symm, hmoves.key.trans hkey⟩
    · exact ⟨i, v, by rw [worker?_moved hn, if_neg hni, hi], hv, hkey⟩

theorem moved (h : p.Sound) (hn : p.worker? n = some w) (hmoves : w.Moves p.now p.maxDelay m w') :
    (p.moved n m w w').Sound := by
  refine ⟨fun key => ?_, fun {i j u v} hi hj hu hv hsame => ?_, fun {i v} hi => ?_,
    fun {i v} hi htrials => ?_, fun {i} hi => ?_⟩
  · rw [h.keys_moved hn hmoves]
    change (key ∈ if m = .release then p.running.erase w.key else p.running) ↔ _
    split
    · rw [Finset.mem_erase, and_comm, forall_prop_of_true ‹m = .release›]
    · exact (and_iff_left fun hm => absurd hm ‹¬m = .release›).symm
  · obtain ⟨u', hu', hulive, hukey⟩ := live_of_moved hn hmoves hi hu
    obtain ⟨v', hv', hvlive, hvkey⟩ := live_of_moved hn hmoves hj hv
    exact h.single hu' hv' hulive hvlive (hukey.trans (hsame.trans hvkey.symm))
  · rw [worker?_moved hn] at hi
    rw [trialsOf_moved]
    split at hi
    · subst i
      cases hi
      rw [if_pos rfl]
      exact hmoves.fits (h.fits hn)
    · rw [if_neg ‹_›, List.append_nil]
      exact h.fits hi
  · rw [worker?_moved hn] at hi
    rw [trialsOf_moved, List.append_eq_nil_iff] at htrials
    split at hi
    · subst i
      cases hi
      rw [if_pos rfl] at htrials
      exact (hmoves.delay htrials.2).trans (h.initial hn htrials.1)
    · exact h.initial hi htrials.1
  · rw [worker?_moved hn] at hi
    split at hi
    · cases hi
    · rw [trialsOf_moved, if_neg ‹_›, List.append_nil]
      exact h.unborn hi

theorem passes {p' : Pool J} {e : Turn J} (h : p.Sound) (hpass : p.Passes e p') : p'.Sound := by
  cases hpass with
  | still => exact h
  | accepted job hfree => exact h.took hfree
  | aged span => exact ⟨h.taken, h.single, h.fits, h.initial, h.unborn⟩
  | acted hn hmoves => exact h.moved hn hmoves

theorem after (h : p.Sound) (run : List (Turn J)) : (p.after run).Sound :=
  after_keeps passes run h

theorem isRunning_iff (h : p.Sound) : p.isRunning key = true ↔
    ∃ n w, p.worker? n = some w ∧ w.Live ∧ w.key = key := by
  rw [isRunning, decide_eq_true_iff, h.taken]

end Sound

end Pool

end ChainReplica
