import ChainReplica.Proofs.Happenings
import ChainReplica.Proofs.SingleAttempts

/-!
# Runs with detached tasks

A write to the cache, the attempts of a job and a refresh are tasks of their own,
which go on when they get a turn. A `Moment` is a command, or the turn of one task,
or that time passes. Any list of moments is a run (`Fleet.through`): writes may
overtake each other, and how long a task waits before its turn is left open, since
the waits of a job are random in part. An attempt that is done and the return of the
key are two turns, and anything may come between them. A turn of a task that there is
not changes nothing, so that a run makes sense also when commands are taken out of it.

`Fleet.Splits` says which members and which jobs belong to the subscriptions with
one text; no moment changes that (`Fleet.Splits.pass`).
-/

namespace ChainReplica

variable {S : Type}

/-- One thing that happens to a fleet with detached tasks. -/
inductive Moment (S : Type) where
  | obey (command : Command S)
  /-- A queued write runs. -/
  | write (w : CacheWrite)
  /-- The live job with a key is attempted. -/
  | attempt (key : String)
  /-- A job that is done gives its key back. -/
  | release (key : String)
  /-- A refresh that waits ends. -/
  | refresh (r : Refresh)
  /-- Time passes on the clock that cached texts expire by. -/
  | age (span : Nat)

/-- Whether this is an operation of the member at an index. -/
def Moment.by (i : Nat) : Moment S → Bool
  | .obey (.member k _) => k == i
  | .obey (.release k) => k == i
  | _ => false

/-- The live job with a key. -/
def Healing.task? (key : String) : Healing → Option (Task HealJob)
  | .listed _ => none
  | .retried scheduler => scheduler.tasks.find? fun t => t.key == key

def Healing.tasks : Healing → List (Task HealJob)
  | .listed _ => []
  | .retried scheduler => scheduler.tasks

/-- The keys that jobs which are done have not given back yet. -/
def Healing.finished : Healing → List String
  | .listed _ => []
  | .retried scheduler => scheduler.finished

def Healing.release (key : String) : Healing → Healing
  | .listed jobs => .listed jobs
  | .retried scheduler => .retried (scheduler.release key)

/-- The scheduler after an attempt of the job with a key: the job waits again, or it is
done and its key still taken. -/
def Scheduler.turned {J : Type} (s : Scheduler J) (key : String) (waiting : Option (Task J)) :
    Scheduler J :=
  { s with
    tasks := (s.tasks.filter fun t => t.key != key) ++ waiting.toList
    finished := if waiting.isNone then key :: s.finished else s.finished }

namespace Fleet

/-- Runs a write, if it is queued. -/
def runWrite (f : Fleet S) (w : CacheWrite) : Fleet S :=
  if w ∈ f.queued then ({ f with queued := f.queued.erase w }.write w).2 else f

/-- Attempts the live job with a key once. Its key stays taken. -/
def runJob (f : Fleet S) (key : String) : Fleet S :=
  match f.healing with
  | .listed _ => f
  | .retried scheduler => match f.healing.task? key with
    | none => f
    | some t =>
      let (waiting, g) := scheduler.attemptTask f.now (fun t g => Fleet.attempt g t.job) 1 t f
      { g with healing := .retried (scheduler.turned key waiting) }

/-- Ends a refresh, if it waits. -/
def runRefresh (f : Fleet S) (r : Refresh) : Fleet S :=
  if r ∈ f.refreshes then { f with refreshes := f.refreshes.erase r }.endRefresh r else f

def pass (f : Fleet S) : Moment S → Fleet S
  | .obey command => (f.obey command).2
  | .write w => f.runWrite w
  | .attempt key => f.runJob key
  | .release key => { f with healing := f.healing.release key }
  | .refresh r => f.runRefresh r
  | .age span => { f with calendar := f.calendar + span }

def through (f : Fleet S) : List (Moment S) → Fleet S
  | [] => f
  | e :: rest => (f.pass e).through rest

theorem through_append : ∀ (f : Fleet S) (front back : List (Moment S)),
    f.through (front ++ back) = (f.through front).through back
  | _, [], _ => rfl
  | f, e :: rest, back => through_append (f.pass e) rest back

def jobsOf (f : Fleet S) (i : Nat) : List (Task HealJob) :=
  f.healing.tasks.filter fun t => t.job.member == i

/-- Whether a job of a member is attempted now. -/
def tries (f : Fleet S) (i : Nat) : Moment S → Bool
  | .attempt key => (f.healing.task? key).any fun t => t.job.member == i
  | _ => false

/-- How often a run attempts jobs of a member. -/
def attempts (f : Fleet S) (i : Nat) : List (Moment S) → Nat
  | [] => 0
  | e :: rest => (if f.tries i e then 1 else 0) + (f.pass e).attempts i rest

end Fleet

def jobKey (text : String) : String := "self-heal:" ++ text

theorem jobKey_inj {text text' : String} : jobKey text = jobKey text' ↔ text = text' :=
  String.append_right_inj _

theorem Subscriber.healKey_eq (s : Subscriber S) : s.healKey = jobKey s.id.text := rfl

namespace Scheduler

variable {J : Type}

theorem mem_submit {scheduler : Scheduler J} {now : Nat} {key : String} {job : J} {t : Task J}
    (h : t ∈ (scheduler.submit now key job).tasks) :
    t ∈ scheduler.tasks ∨ (t.key = key ∧ t.job = job) := by
  rw [submit] at h
  split at h
  · exact Or.inl h
  · rcases List.mem_append.mp h with h | h
    · exact Or.inl h
    · rw [List.mem_singleton.mp h]
      exact Or.inr ⟨rfl, rfl⟩

/-- What is left of a job after its attempt has its key. -/
theorem key_of_turn {scheduler : Scheduler J} {t : Task J} {key : String} (ht : t.key = key)
    {done : Bool} {now : Nat} :
    ∀ u ∈ if done then none else some (scheduler.retry now t), u.key = key := by
  intro u hu
  split at hu
  · cases hu
  · cases hu
    exact ht

end Scheduler

namespace Fleet

variable {f : Fleet S} {i k : Nat} {s : Subscriber S} {text : String} {mine : Nat → Bool}

/-! ## Turns of tasks -/

def cacheWritten (f : Fleet S) : CacheWrite → Store
  | .set key value ttl => if f.outage.set then f.cache else f.cache.set f.calendar key value ttl
  | .publish _ _ => f.cache

theorem write_eq (f : Fleet S) (w : CacheWrite) :
    (f.write w).2 = { f with written := f.written ++ [w], cache := f.cacheWritten w } := by
  cases w with
  | set key value ttl =>
      rw [write, cacheWritten]
      split <;> rfl
  | publish topic payload => rw [write, cacheWritten]

theorem task?_eq_some {key : String} {t : Task HealJob} (h : f.healing.task? key = some t) :
    t ∈ f.healing.tasks ∧ t.key = key := by
  cases hhealing : f.healing with
  | listed jobs => rw [hhealing] at h; cases h
  | retried scheduler =>
      rw [hhealing] at h
      exact ⟨List.mem_of_find?_eq_some h, by simpa using List.find?_some h⟩

theorem runJob_of_none {key : String} (h : f.healing.task? key = none) : f.runJob key = f := by
  rw [runJob]
  split
  · rfl
  · rw [h]

/-- The turn of a job is an attempt, after which the job is done or waits. -/
theorem runJob_of_some {scheduler : Scheduler HealJob} {key : String} {t : Task HealJob}
    (hs : f.healing = .retried scheduler) (ht : f.healing.task? key = some t) :
    f.runJob key =
      { (f.attempt t.job).2 with
        healing := .retried (scheduler.turned key
          (if (f.attempt t.job).1 then none else some (scheduler.retry f.now t))) } := by
  rw [runJob]
  split
  · rename_i hlisted
    cases hs.symm.trans hlisted
  · rename_i other hother
    obtain rfl := Healing.retried.inj (hs.symm.trans hother)
    rw [ht]
    simp only [Scheduler.attemptTask_one]

/-! ## What belongs to a text -/

/-- The members whose subscription has a text are those at the indices `mine`, and
the job for this text is theirs. -/
structure Splits (f : Fleet S) (text : String) (mine : Nat → Bool) : Prop where
  members : ∀ k s, f.subscriber? k = some s → (s.id.text = text ↔ mine k = true)
  retried : ∃ scheduler, f.healing = .retried scheduler
  jobs : ∀ t ∈ f.healing.tasks, t.key = jobKey text ↔ mine t.job.member = true

theorem healing_write (w : CacheWrite) : (f.write w).2.healing = f.healing := by
  rw [write_eq]

/-- Without an action the jobs stay as they are. -/
theorem healing_of_idle {e : Happening S} (h : f.acting? e = none) :
    (f.happen e).healing = f.healing := by
  cases e with
  | age span => rfl
  | write =>
      rw [happen, runOldest]
      split
      · rfl
      · exact healing_write _
  | attempt job => rw [happen, attempt_of_none h]
  | refresh r => rw [happen, endRefresh, Option.map_eq_none_iff.mp h]
  | obey command =>
      cases command with
      | member j command => rw [happen, member_of_idle h]
      | runJob index => rw [happen, runJob_of_idle h]
      | publishLatest group block => exact healing_write (.set (Store.latestKey group) _ _)
      | _ => rfl

namespace Splits

theorem of_frame {g : Fleet S} (h : f.Splits text mine)
    (hmembers : ∀ k, g.subscriber? k = f.subscriber? k) (hhealing : g.healing = f.healing) :
    g.Splits text mine :=
  ⟨fun k s hs => h.members k s (hmembers k ▸ hs), hhealing ▸ h.retried, hhealing ▸ h.jobs⟩

/-- Jobs that are left, and jobs of the same kind. -/
theorem of_jobs {g : Fleet S} {scheduler : Scheduler HealJob} (h : f.Splits text mine)
    (hmembers : ∀ k, g.subscriber? k = f.subscriber? k) (hhealing : g.healing = .retried scheduler)
    (hjobs : ∀ t ∈ scheduler.tasks, t ∈ f.healing.tasks
      ∨ (t.key = jobKey text ↔ mine t.job.member = true)) :
    g.Splits text mine := by
  refine ⟨fun k s hs => h.members k s (hmembers k ▸ hs), ⟨scheduler, hhealing⟩, fun t ht => ?_⟩
  rw [hhealing] at ht
  exact (hjobs t ht).elim (h.jobs t) id

theorem carry (h : f.Splits text mine) (hs : s.id.text = text ↔ mine k = true) (e : Effect S) :
    (carry k s f e).Splits text mine := by
  have hmembers : ∀ i, (Fleet.carry k s f e).subscriber? i = f.subscriber? i :=
    subscriber?_carry e
  cases e with
  | heal block =>
      obtain ⟨scheduler, hscheduler⟩ := h.retried
      have hhealing : (Fleet.carry k s f (.heal block)).healing =
          .retried (scheduler.submit f.now s.healKey ⟨k, s.healKey, block⟩) := by
        rw [Fleet.carry, submit, hscheduler]
      refine h.of_jobs hmembers hhealing fun t ht => ?_
      rw [hscheduler]
      refine (Scheduler.mem_submit ht).imp_right ?_
      rintro ⟨hkey, hjob⟩
      rw [hkey, hjob, Subscriber.healKey_eq, jobKey_inj]
      exact hs
  | _ => exact h.of_frame hmembers (carry_healing fun block hblock => by cases hblock)

theorem commit (h : f.Splits text mine) (hs : f.subscriber? k = some s) {s' : Subscriber S}
    (hid : s'.id = s.id) (effects : List (Effect S)) :
    (f.commit k s' effects).Splits text mine := by
  have hown : s'.id.text = text ↔ mine k = true := hid ▸ h.members k s hs
  have hput : (f.modify k fun m => { m with subscriber := s' }).Splits text mine := by
    refine ⟨fun i t ht => ?_, h.retried, h.jobs⟩
    have hnone : (f.modify k fun m => { m with subscriber := s' }) = f.commit k s' [] := rfl
    rw [hnone, subscriber?_commit] at ht
    obtain ⟨t', ht', rfl⟩ := Option.map_eq_some_iff.mp ht
    split
    · rename_i hki
      exact hki ▸ hown
    · exact h.members i t' ht'
  rw [Fleet.commit]
  generalize (f.modify k fun m => { m with subscriber := s' }) = g at hput
  induction effects generalizing g with
  | nil => exact hput
  | cons e rest ih => exact ih _ (hput.carry hown e)

theorem happen (h : f.Splits text mine) (e : Happening S) : (f.happen e).Splits text mine := by
  cases hacting : f.acting? e with
  | none => exact h.of_frame (subscriber?_of_idle hacting) (healing_of_idle hacting)
  | some acting =>
      obtain ⟨k, a⟩ := acting
      obtain ⟨s, hs, hhappen⟩ := happen_of_acting hacting
      rw [hhappen]
      exact h.commit hs ((Subscriber.Alike.refl s).act a).id _

theorem pass (h : f.Splits text mine) (e : Moment S) : (f.pass e).Splits text mine := by
  cases e with
  | obey command => exact h.happen (.obey command)
  | age span => exact h.happen (.age span)
  | write w =>
      rw [Fleet.pass, runWrite]
      split
      · refine h.of_frame (fun i => ?_) (healing_write _)
        exact subscriber?_congr (write_frame _).1 i
      · exact h
  | refresh r =>
      rw [Fleet.pass, runRefresh]
      split
      · have hsame : ({ f with refreshes := f.refreshes.erase r } : Fleet S).Splits text mine :=
          ⟨h.members, h.retried, h.jobs⟩
        exact hsame.happen (.refresh r)
      · exact h
  | release key =>
      obtain ⟨scheduler, hscheduler⟩ := h.retried
      have hhealing : (f.pass (.release key)).healing = .retried (scheduler.release key) := by
        rw [Fleet.pass, hscheduler]
        rfl
      refine h.of_jobs (fun _ => rfl) hhealing fun t ht => Or.inl ?_
      rw [hscheduler]
      exact ht
  | attempt key =>
      rw [Fleet.pass]
      obtain ⟨scheduler, hscheduler⟩ := h.retried
      cases ht : f.healing.task? key with
      | none =>
          rw [runJob_of_none ht]
          exact h
      | some t =>
          have hattempt : (f.attempt t.job).2.Splits text mine := h.happen (.attempt t.job)
          have hown := h.jobs t (task?_eq_some ht).1
          rw [runJob_of_some hscheduler ht]
          refine ⟨hattempt.members, ⟨_, rfl⟩, fun u hu => ?_⟩
          rcases List.mem_append.mp hu with hu | hu
          · refine h.jobs u ?_
            rw [hscheduler]
            exact (List.mem_filter.mp hu).1
          · split at hu
            · cases hu
            · cases Option.mem_toList.mp hu
              exact hown

theorem through : ∀ (run : List (Moment S)) {f : Fleet S}, f.Splits text mine →
    (f.through run).Splits text mine
  | [], _, h => h
  | e :: rest, _, h => Splits.through rest (h.pass e)

end Splits

end Fleet

end ChainReplica
