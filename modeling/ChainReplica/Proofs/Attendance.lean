import ChainReplica.Proofs.Healing
import ChainReplica.Proofs.Hosting
import ChainReplica.Proofs.Isolation

/-!
# One job for a missing snapshot

From the update that leaves a master without a snapshot until it holds one again,
goes to sleep or is given up, exactly one job for it is alive, whatever happens
meanwhile, unless the update comes when the last job is done and has not given its key
back (`Fleet.healed_by_one_job`). This is a matter of two machines. The subscriber asks
for a job at the end of every update that leaves it without a snapshot; the scheduler
accepts one job for a key, and keeps it until an attempt says that it is done, which an
attempt says only if there is a snapshot or the subscriber is asleep or gone.

Between the last attempt and the return of the key the subscriber can lose its snapshot
again. What it asks for then is dropped, and when the key is free nobody is left who
would ask (`Fleet.left_without_job`).

What can become of the jobs for a key in one moment is said once
(`Fleet.pass_watched`). Jobs are attempted at any time here, since their waits are
random in part.
-/

namespace ChainReplica

variable {S : Type}

/-- A key is free if no job with it is alive or has yet to give it back. -/
theorem Scheduler.free_iff {J : Type} {s : Scheduler J} {key : String} :
    key ∉ s.keys ↔ s.tasks.filter (·.key == key) = [] ∧ key ∉ s.finished := by
  rw [mem_keys, not_or, List.filter_eq_nil_iff]
  simp

/-- A submitted job is the job for its key, if the key was free. -/
theorem Scheduler.filter_submit {J : Type} (s : Scheduler J) (now : Nat) (submitted : String)
    (job : J) (key : String) :
    (s.submit now submitted job).tasks.filter (·.key == key) =
      if submitted = key ∧ key ∉ s.keys then [⟨submitted, job, 0, now, s.initialDelay⟩]
      else s.tasks.filter (·.key == key) := by
  by_cases hkey : submitted = key
  · subst hkey
    by_cases hfree : submitted ∈ s.keys
    · rw [submit, if_pos (isRunning_iff.mpr hfree), if_neg fun h => h.2 hfree]
    · rw [submit, if_neg fun h => hfree (isRunning_iff.mp h), if_pos ⟨rfl, hfree⟩,
        List.filter_append, (free_iff.mp hfree).1]
      simp
  · rw [if_neg fun h => hkey h.1, submit]
    split
    · rfl
    · simp [List.filter_append, hkey]

/-- An update that leaves nothing behind has found nothing. -/
theorem Subscriber.bare_of_update {s : Subscriber S} {source : Source S} {logs : List Log}
    {headers : Headers} (h : (s.update source logs headers).subscriber.replica.Bare) :
    s.replica.Bare := by
  cases ha : s.replica.inactive with
  | true =>
      rw [update, if_pos ha] at h
      cases h.1.symm.trans ha
  | false =>
      refine (Replica.bare_or_holds ha).resolve_right fun hheld => ?_
      cases h.2.symm.trans (update_holds hheld source).2

namespace Fleet

variable {f : Fleet S} {i j : Nat} {key : String} {e : Moment S}

/-! ## The jobs for a key -/

/-- Jobs are retried until they are done. -/
def Retries (f : Fleet S) : Prop := ∃ scheduler, f.healing = .retried scheduler

/-- The live jobs for a key. -/
def jobsFor (f : Fleet S) (key : String) : List (Task HealJob) :=
  f.healing.tasks.filter (·.key == key)

/-- No job has the key. -/
def Free (f : Fleet S) (key : String) : Prop := key ∉ f.healing.keys

/-- A job with the key is done, and the key is still taken. -/
def Lingers (f : Fleet S) (key : String) : Prop := key ∈ f.healing.finished

/-- One job for a key is alive, a job of the member at an index. -/
def Tended (f : Fleet S) (i : Nat) (key : String) : Prop :=
  ∃ t, f.jobsFor key = [t] ∧ t.job.member = i

/-- When a command is obeyed, a member submits a job with a key. -/
def Submits (f : Fleet S) (j : Nat) (key : String) (command : Command S) : Prop :=
  ∃ s a block, f.acting? (.obey command) = some (j, a) ∧ f.subscriber? j = some s
    ∧ .heal block ∈ s.asked a ∧ (s.act a).healKey = key

theorem jobsFor_congr {g : Fleet S} (h : g.healing = f.healing) :
    g.jobsFor key = f.jobsFor key := by
  rw [jobsFor, h, jobsFor]

theorem free_iff : f.Free key ↔ f.jobsFor key = [] ∧ ¬f.Lingers key := by
  rw [Free, jobsFor, Lingers]
  cases f.healing with
  | listed jobs => simp [Healing.keys, Healing.tasks, Healing.finished]
  | retried scheduler => exact Scheduler.free_iff

theorem carry_jobsFor (hf : f.Retries) (j : Nat) (s : Subscriber S) (e : Effect S) (key : String) :
    (carry j s f e).Retries ∧ (carry j s f e).healing.finished = f.healing.finished
      ∧ ((carry j s f e).jobsFor key = f.jobsFor key
        ∨ (f.Free key ∧ s.healKey = key ∧ (∃ block, e = .heal block)
          ∧ (carry j s f e).Tended j key)) := by
  obtain ⟨scheduler, hs⟩ := hf
  by_cases hheal : ∃ block, e = .heal block
  · obtain ⟨block, rfl⟩ := hheal
    have hhealing : (carry j s f (.heal block)).healing =
        .retried (scheduler.submit f.now s.healKey ⟨j, s.healKey, block⟩) := by
      rw [carry, submit, hs]
    have hbefore : f.jobsFor key = scheduler.tasks.filter (·.key == key) := by
      rw [jobsFor, hs]
      rfl
    have hafter : (carry j s f (.heal block)).jobsFor key =
        (scheduler.submit f.now s.healKey ⟨j, s.healKey, block⟩).tasks.filter (·.key == key) := by
      rw [jobsFor, hhealing]
      rfl
    have hfinished : (scheduler.submit f.now s.healKey ⟨j, s.healKey, block⟩).finished =
        scheduler.finished := by
      rw [Scheduler.submit]
      split <;> rfl
    refine ⟨⟨_, hhealing⟩, by rw [hhealing, hs]; exact hfinished, ?_⟩
    rw [Tended, hafter, hbefore, Scheduler.filter_submit, Free, hs]
    split
    · rename_i hnew
      exact Or.inr ⟨hnew.1 ▸ hnew.2, hnew.1, ⟨block, rfl⟩, _, rfl, rfl⟩
    · exact Or.inl rfl
  · have hhealing : (carry j s f e).healing = f.healing :=
      carry_healing fun block h => hheal ⟨block, h.symm⟩
    exact ⟨⟨scheduler, hhealing.trans hs⟩, congrArg _ hhealing, Or.inl (jobsFor_congr hhealing)⟩

/-- What a commit makes of the jobs for a key. -/
theorem commit_jobsFor (hf : f.Retries) (j : Nat) (s : Subscriber S) (effects : List (Effect S))
    (key : String) :
    (f.commit j s effects).Retries ∧ (f.commit j s effects).healing.finished = f.healing.finished
      ∧ ((f.commit j s effects).jobsFor key = f.jobsFor key
        ∨ (f.Free key ∧ s.healKey = key ∧ (∃ block, .heal block ∈ effects)
          ∧ (f.commit j s effects).Tended j key)) := by
  have hput : (f.modify j fun m => { m with subscriber := s }).Retries := hf
  have hbefore : (f.modify j fun m => { m with subscriber := s }).healing = f.healing := rfl
  rw [commit, Free, jobsFor_congr hbefore.symm, ← hbefore]
  generalize (f.modify j fun m => { m with subscriber := s }) = g at hput
  -- Once the first job is submitted, no later effect can submit another one.
  induction effects generalizing g with
  | nil => exact ⟨hput, rfl, Or.inl rfl⟩
  | cons e rest ih =>
      obtain ⟨hretries, hfinished, hcarried⟩ := carry_jobsFor hput j s e key
      obtain ⟨hlast, hkept, hrest⟩ := ih _ hretries
      refine ⟨hlast, hkept.trans hfinished, ?_⟩
      rw [List.foldl_cons]
      rcases hcarried with hsame | ⟨hfree, hkey, ⟨block, rfl⟩, htended⟩
      · have hfree : (carry j s g e).Free key ↔ g.Free key := by
          rw [free_iff, free_iff, hsame, Lingers, Lingers, hfinished]
        rw [hsame] at hrest
        refine hrest.imp_right fun hsubmitted => ?_
        obtain ⟨hstill, hkey, ⟨block, hblock⟩, htended⟩ := hsubmitted
        exact ⟨hfree.mp hstill, hkey, ⟨block, List.mem_cons_of_mem _ hblock⟩, htended⟩
      · refine Or.inr ⟨hfree, hkey, ⟨block, List.mem_cons_self⟩, ?_⟩
        rcases hrest with hsame | ⟨hnone, -⟩
        · rw [Tended, hsame]
          exact htended
        · obtain ⟨t, ht, -⟩ := htended
          cases ht.symm.trans (free_iff.mp hnone).1

theorem task?_eq (f : Fleet S) (key : String) :
    f.healing.task? key = (f.jobsFor key).head? := by
  rw [jobsFor]
  cases f.healing with
  | listed jobs => rfl
  | retried scheduler => exact List.head?_filter.symm

theorem jobsFor_eq_part (f : Fleet S) (key : String) :
    f.jobsFor key = (f.healing.part key).elim [] Scheduler.tasks := by
  rw [jobsFor]
  cases f.healing <;> rfl

/-- What the attempt of a job makes of the jobs for its key, and for others. -/
theorem runJob_jobsFor (hf : f.Retries) {attempted : String} {t : Task HealJob}
    (ht : f.healing.task? attempted = some t) (key : String) :
    (f.runJob attempted).Retries ∧ ∃ u : Task HealJob, u.job = t.job
      ∧ (f.runJob attempted).jobsFor key =
        if attempted = key then (if (f.attempt t.job).1 then [] else [u]) else f.jobsFor key := by
  obtain ⟨scheduler, hs⟩ := hf
  obtain ⟨-, htkey⟩ := task?_eq_some ht
  have hwaiting : ∀ u ∈ if (f.attempt t.job).1 then none else some (scheduler.retry f.now t),
      u.key = attempted := Scheduler.key_of_turn htkey
  rw [runJob_of_some hs ht]
  refine ⟨⟨_, rfl⟩, scheduler.retry f.now t, rfl, ?_⟩
  rw [jobsFor_eq_part, jobsFor_eq_part, hs]
  by_cases hkey : attempted = key
  · subst hkey
    rw [if_pos rfl]
    refine (scheduler.tasks_part_turned hwaiting).trans ?_
    split <;> rfl
  · rw [if_neg hkey]
    exact congrArg Scheduler.tasks (scheduler.part_turned_of_ne hwaiting hkey)

/-! ## One moment -/

/-- What can become of the live jobs for a key in a moment: nothing; a member submits
one, since the key was free; or the one that is alive is attempted. -/
inductive Watched (f : Fleet S) (key : String) : Moment S → Fleet S → Prop where
  | same {e : Moment S} {g : Fleet S} : g.jobsFor key = f.jobsFor key → Watched f key e g
  | submitted {command : Command S} {j : Nat} {g : Fleet S} : f.Free key →
      f.Submits j key command → g.Tended j key → Watched f key (.obey command) g
  | attempted {t : Task HealJob} : f.healing.task? key = some t →
      Watched f key (.attempt key) (f.runJob key)

theorem healing_runWrite (f : Fleet S) (w : CacheWrite) : (f.runWrite w).healing = f.healing := by
  rw [runWrite]
  split
  · exact healing_write w
  · rfl

/-- The end of a refresh asks for no job. -/
theorem healing_runRefresh (f : Fleet S) (r : Refresh) :
    (f.runRefresh r).healing = f.healing := by
  rw [runRefresh]
  split
  · rw [endRefresh]
    split
    · rfl
    · exact commit_healing (.of_plain (Subscriber.absorb_plain _ _))
  · rfl

theorem Retries.of_healing {g : Fleet S} (hf : f.Retries) (h : g.healing = f.healing) :
    g.Retries ∧ g.jobsFor key = f.jobsFor key := by
  refine ⟨?_, jobsFor_congr h⟩
  rw [Retries, h]
  exact hf

theorem obey_watched (hf : f.Retries) (key : String) (command : Command S) :
    (f.obey command).2.Retries ∧ f.Watched key (.obey command) (f.obey command).2
      ∧ (f.obey command).2.healing.finished = f.healing.finished := by
  cases hacting : f.acting? (.obey command) with
  | none =>
      have hhealing : (f.obey command).2.healing = f.healing := healing_of_idle hacting
      obtain ⟨hretries, hsame⟩ := hf.of_healing hhealing
      exact ⟨hretries, .same hsame, congrArg _ hhealing⟩
  | some acting =>
      obtain ⟨j, a⟩ := acting
      obtain ⟨s, hs, hhappen⟩ := happen_of_acting hacting
      change (f.obey command).2 = _ at hhappen
      rw [hhappen]
      obtain ⟨hretries, hfinished, hjobs⟩ := commit_jobsFor hf j (s.act a) (s.asked a) key
      refine ⟨hretries, ?_, hfinished⟩
      rcases hjobs with hsame | ⟨hfree, hkey, ⟨block, hblock⟩, htended⟩
      · exact .same hsame
      · exact .submitted hfree ⟨s, a, block, hacting, hs, hblock, hkey⟩ htended

theorem pass_watched (hf : f.Retries) (key : String) (e : Moment S) :
    (f.pass e).Retries ∧ f.Watched key e (f.pass e) := by
  cases e with
  | age span => exact ⟨hf, .same rfl⟩
  | obey command => exact (obey_watched hf key command).imp_right And.left
  | release released =>
      obtain ⟨scheduler, hs⟩ := hf
      have hhealing : (f.pass (.release released)).healing =
          .retried (scheduler.release released) := by
        rw [pass, hs]
        rfl
      refine ⟨⟨_, hhealing⟩, .same ?_⟩
      rw [jobsFor, jobsFor, hhealing, hs]
      rfl
  | write w => exact (hf.of_healing (f.healing_runWrite w)).imp_right .same
  | refresh r => exact (hf.of_healing (f.healing_runRefresh r)).imp_right .same
  | attempt attempted =>
      cases ht : f.healing.task? attempted with
      | none =>
          rw [pass, runJob_of_none ht]
          exact ⟨hf, .same rfl⟩
      | some t =>
          obtain ⟨hretries, u, hjob, hjobs⟩ := runJob_jobsFor hf ht key
          refine ⟨hretries, ?_⟩
          by_cases hkey : attempted = key
          · subst hkey
            exact .attempted ht
          · exact .same (hjobs.trans (if_neg hkey))

/-! ## Nobody else submits -/

/-- No other member submits a job with the key in a run. -/
def Unrivalled (f : Fleet S) (i : Nat) (key : String) : List (Moment S) → Prop
  | [] => True
  | e :: rest => (∀ command j, e = .obey command → f.Submits j key command → j = i)
    ∧ (f.pass e).Unrivalled i key rest

/-- Nobody else submits the job if no other member has the subscription. -/
theorem Splits.unrivalled {text : String} {mine : Nat → Bool} (hmine : ∀ k, mine k = true → k = i) :
    ∀ (run : List (Moment S)) {f : Fleet S}, f.Splits text mine → f.Unrivalled i (jobKey text) run
  | [], _, _ => trivial
  | e :: rest, _, h => by
      refine ⟨?_, Splits.unrivalled hmine rest (h.pass e)⟩
      rintro command j - ⟨s, a, block, -, hs, -, hkey⟩
      rw [((Subscriber.Alike.refl s).act a).healKey, Subscriber.healKey_eq, jobKey_inj] at hkey
      exact hmine j ((h.members j s hs).mp hkey)

/-- No job for a key is alive, or one of the member at an index. -/
def Owned (f : Fleet S) (i : Nat) (key : String) : Prop :=
  f.jobsFor key = [] ∨ f.Tended i key

theorem Owned.attempt (h : f.Owned i key) {t : Task HealJob}
    (ht : f.healing.task? key = some t) :
    t.job.member = i ∧ f.jobsFor key = [t] := by
  rw [task?_eq] at ht
  rcases h with hnil | ⟨u, hu, hown⟩
  · rw [hnil] at ht
    cases ht
  · rw [hu] at ht
    obtain rfl : u = t := Option.some.inj ht
    exact ⟨hown, hu⟩

theorem Owned.pass (h : f.Owned i key) (hf : f.Retries)
    (hrivals : ∀ command j, e = .obey command → f.Submits j key command → j = i) :
    (f.pass e).Owned i key := by
  obtain ⟨-, hwatched⟩ := pass_watched hf key e
  generalize f.pass e = g at hwatched
  cases hwatched with
  | same hsame =>
      rw [Owned, Tended, hsame]
      exact h
  | submitted _ hsubmits htended => exact Or.inr (hrivals _ _ rfl hsubmits ▸ htended)
  | attempted ht =>
      obtain ⟨hown, -⟩ := h.attempt ht
      obtain ⟨-, u, hjob, hjobs⟩ := runJob_jobsFor hf ht key
      rw [if_pos rfl] at hjobs
      split at hjobs
      · exact Or.inl hjobs
      · exact Or.inr ⟨u, hjobs, hjob ▸ hown⟩

theorem Owned.through : ∀ (run : List (Moment S)) {f : Fleet S}, f.Owned i key → f.Retries →
    f.Unrivalled i key run → (f.through run).Owned i key ∧ (f.through run).Retries
  | [], _, h, hf, _ => ⟨h, hf⟩
  | e :: rest, _, h, hf, hrun =>
      Owned.through rest (h.pass hf hrun.1) (pass_watched hf key e).1 hrun.2

/-! ## A member that holds nothing -/

/-- A member is there and awake, and holds nothing. -/
def Lacks (f : Fleet S) (i : Nat) : Prop :=
  ∃ m, f.member? i = some m ∧ m.subscriber.replica.Bare

instance (f : Fleet S) (i : Nat) : Decidable (f.Lacks i) :=
  decidable_of_iff ((f.member? i).any fun m =>
    decide (m.subscriber.replica.inactive = false ∧ m.subscriber.replica.hasSnapshot = false))
    (by simp [Lacks, Replica.Bare, Option.any_eq_true])

/-- A member holds nothing, all along a run. -/
def LacksAlong (f : Fleet S) (i : Nat) : List (Moment S) → Prop
  | [] => f.Lacks i
  | e :: rest => f.Lacks i ∧ (f.pass e).LacksAlong i rest

theorem LacksAlong.start : ∀ {run : List (Moment S)} {f : Fleet S}, f.LacksAlong i run → f.Lacks i
  | [], _, h => h
  | _ :: _, _, h => h.1

/-- An attempt that is done leaves a snapshot. -/
theorem attempt_of_lacks (h : f.Lacks i) {job : HealJob} (hown : job.member = i)
    (hafter : (f.attempt job).2.Lacks i) : (f.attempt job).1 = false := by
  obtain ⟨m, hm, hbare⟩ := h
  obtain ⟨m', hm', -, hdone⟩ :=
    @attempt_mends S f i m (fun _ => True) hm hbare.1 job fun _ => trivial
  obtain ⟨last, hlast, hlastBare⟩ := hafter
  obtain rfl : m' = last := Option.some.inj (hm'.symm.trans hlast)
  refine Bool.eq_false_iff.mpr fun htrue => ?_
  cases hlastBare.2.symm.trans (hdone hown htrue).2

/-- The job of a member stays as long as the member holds nothing. -/
theorem Tended.pass (h : f.Tended i key) (hf : f.Retries) (hbefore : f.Lacks i)
    (hafter : (f.pass e).Lacks i) : (f.pass e).Tended i key := by
  obtain ⟨-, hwatched⟩ := pass_watched hf key e
  generalize hg : f.pass e = g at hwatched hafter
  cases hwatched with
  | same hsame =>
      rw [Tended, hsame]
      exact h
  | submitted hfree _ _ =>
      obtain ⟨t, ht, -⟩ := h
      cases ht.symm.trans (free_iff.mp hfree).1
  | @attempted t ht =>
      obtain ⟨hown, -⟩ := Owned.attempt (Or.inr h) ht
      obtain ⟨scheduler, hs⟩ := hf
      obtain ⟨-, u, hjob, hjobs⟩ := runJob_jobsFor ⟨scheduler, hs⟩ ht key
      -- Were the attempt done, the member would hold a snapshot now.
      have hfailed : (f.attempt t.job).1 = false := by
        refine attempt_of_lacks hbefore hown ?_
        rw [runJob_of_some hs ht] at hafter
        exact hafter
      rw [if_pos rfl, hfailed] at hjobs
      exact ⟨u, hjobs, hjob ▸ hown⟩

theorem Tended.through : ∀ (run : List (Moment S)) {f : Fleet S}, f.Tended i key → f.Retries →
    f.LacksAlong i run →
    (f.through run).Tended i key ∧ (f.through run).Retries ∧ (f.through run).Lacks i
  | [], _, h, hf, hlacks => ⟨h, hf, hlacks⟩
  | e :: rest, _, h, hf, hlacks =>
      Tended.through rest (h.pass hf hlacks.1 hlacks.2.start) (pass_watched hf key e).1 hlacks.2

/-! ## The update that asks for a job -/

/-- An update that tells of a block after the first one and leaves a master without
a snapshot leaves it with a job, unless the key is taken by a job that is done. -/
theorem Owned.update {m : Member S} (h : f.Owned i m.subscriber.healKey) (hf : f.Retries)
    (hover : ¬f.Lingers m.subscriber.healKey) (hm : f.member? i = some m)
    (hmaster : m.subscriber.settings.role = .master)
    {logs : List Log} {headers : Headers} (haccepts : ¬m.subscriber.Rejects logs headers)
    (hseen : 0 < newestOf m.subscriber.replica.pointer (delivered logs headers))
    (hlacks : (f.pass (.obey (.member i (.update logs headers)))).Lacks i) :
    (f.pass (.obey (.member i (.update logs headers)))).Tended i m.subscriber.healKey := by
  have hpass : f.pass (.obey (.member i (.update logs headers))) = _ := turn_update hm logs headers
  rw [hpass] at hlacks ⊢
  obtain ⟨calls, hcommit⟩ := member?_commit_self (s := (m.subscriber.update m.source logs
    headers).subscriber) hm (m.subscriber.update m.source logs headers).effects
  obtain ⟨last, hlast, hbare⟩ := hlacks
  obtain rfl := Option.some.inj (hcommit.symm.trans hlast)
  rcases Subscriber.update_bare (Subscriber.bare_of_update hbare) hmaster haccepts m.source with
    hheld | ⟨hsame, asked, hasked, heffects⟩
  · cases hbare.2.symm.trans hheld.2
  · obtain ⟨scheduler, hs⟩ := hf
    have hkey : (m.subscriber.update m.source logs headers).subscriber.healKey =
        m.subscriber.healKey := by
      rw [hsame]
      rfl
    obtain ⟨now, hhealing⟩ := commit_heal_healing (j := i)
      (s := (m.subscriber.update m.source logs headers).subscriber) hs hasked
      (newestOf m.subscriber.replica.pointer (delivered logs headers))
    rw [heffects, if_pos hseen, Tended, jobsFor, hhealing, hkey]
    change ∃ t, (Scheduler.submit _ _ _ _).tasks.filter _ = _ ∧ _
    rw [Scheduler.filter_submit]
    rw [Lingers, hs] at hover
    rw [Owned, Tended, jobsFor, hs] at h
    -- The scheduler takes the job, or drops it since there is one.
    rcases h with hnil | ⟨t, ht, hown⟩
    · rw [if_pos ⟨rfl, Scheduler.free_iff.mpr ⟨hnil, hover⟩⟩]
      exact ⟨_, rfl, rfl⟩
    · rw [if_neg fun hnew => ?_]
      · exact ⟨t, ht, hown⟩
      · cases ht.symm.trans (Scheduler.free_iff.mp hnew.2).1

/-! ## Attempts -/

/-- An attempt that fails leaves the subscriber as it was, and the job alive. -/
theorem Tended.attempt_failing (hf : f.Retries) {t : Task HealJob} (hjobs : f.jobsFor key = [t])
    (hown : t.job.member = i) {m : Member S} (hm : f.member? i = some m)
    (hbare : m.subscriber.replica.Bare) {e : Failure} (hfails : m.source t.job.block = .error e) :
    (f.pass (.attempt key)).subscriber? i = some m.subscriber
      ∧ ∃ u, (f.pass (.attempt key)).jobsFor key = [u] ∧ u.job = t.job := by
  have ht : f.healing.task? key = some t := by rw [task?_eq, hjobs, List.head?_cons]
  have hheal : m.subscriber.heal m.source t.job.block =
      (false, m.subscriber, [.generate t.job.block]) := by
    rw [Subscriber.heal, if_neg (by simp [Subscriber.healed, hbare.1, hbare.2]), hfails]
  have hattempt : f.attempt t.job = (false, f.commit i m.subscriber [.generate t.job.block]) := by
    rw [attempt, hown, hm]
    simp only [hheal]
  obtain ⟨scheduler, hs⟩ := hf
  obtain ⟨-, u, hjob, hafter⟩ := runJob_jobsFor ⟨scheduler, hs⟩ ht key
  rw [if_pos rfl, hattempt] at hafter
  refine ⟨?_, u, hafter, hjob⟩
  rw [Fleet.pass, runJob_of_some hs ht, hattempt]
  change (f.commit i m.subscriber [.generate t.job.block]).subscriber? i = _
  rw [subscriber?_commit, subscriber?_of_members (members_of_member? hm), Option.map_some,
    if_pos rfl]

/-- An attempt that finds a snapshot, or a member that is asleep or given up, ends the
job and builds nothing. -/
theorem Owned.attempt_healed (h : f.Owned i key) (hf : f.Retries)
    (hhealed : ∀ m, f.member? i = some m → m.subscriber.healed = true) :
    (f.pass (.attempt key)).jobsFor key = []
      ∧ (f.pass (.attempt key)).members[i]? = f.members[i]? := by
  rw [Fleet.pass]
  cases ht : f.healing.task? key with
  | none =>
      rw [runJob_of_none ht]
      rw [task?_eq] at ht
      exact ⟨List.head?_eq_none_iff.mp ht, rfl⟩
  | some t =>
      obtain ⟨hown, -⟩ := h.attempt ht
      have hattempt : (f.attempt t.job).1 = true
          ∧ (f.attempt t.job).2.members[i]? = f.members[i]? := by
        rw [Fleet.attempt, hown]
        cases hm : f.member? i with
        | none => exact ⟨rfl, rfl⟩
        | some m =>
            have hheal : m.subscriber.heal m.source t.job.block = (true, m.subscriber, []) := by
              rw [Subscriber.heal, if_pos (hhealed m hm)]
            simp only [hheal, true_and]
            rw [commit, List.foldl_nil, modify, List.getElem?_modify_eq, members_of_member? hm]
            rfl
      obtain ⟨scheduler, hs⟩ := hf
      obtain ⟨-, u, -, hafter⟩ := runJob_jobsFor ⟨scheduler, hs⟩ ht key
      rw [if_pos rfl, if_pos hattempt.1] at hafter
      refine ⟨hafter, ?_⟩
      rw [runJob_of_some hs ht]
      exact hattempt.2

/-! ## The return of a key -/

/-- Where a job is done, none with its key is alive. -/
theorem Distinct.jobsFor_of_lingers (h : f.Distinct) (hover : f.Lingers key) :
    f.jobsFor key = [] := by
  rw [Distinct] at h
  rw [Lingers] at hover
  rw [jobsFor]
  cases hhealing : f.healing with
  | listed jobs => rfl
  | retried scheduler =>
      rw [hhealing] at h hover
      obtain ⟨-, -, happart⟩ := List.nodup_append.mp h
      exact List.filter_eq_nil_iff.mpr fun t ht hkey =>
        happart t.key (List.mem_map_of_mem ht) key hover (by simpa using hkey)

/-- A key that no live job has is free when it was given back. -/
theorem Distinct.free_of_release (h : f.Distinct) (hnone : f.jobsFor key = []) :
    (f.pass (.release key)).Free key := by
  rw [Distinct] at h
  rw [jobsFor] at hnone
  change key ∉ (f.healing.release key).keys
  cases hhealing : f.healing with
  | listed jobs => exact List.not_mem_nil
  | retried scheduler =>
      rw [hhealing] at h hnone
      obtain ⟨-, hfinished, -⟩ := List.nodup_append.mp h
      exact Scheduler.free_iff.mpr ⟨hnone, hfinished.not_mem_erase⟩

/-- What a member asks for while its key is taken by a job that is done is dropped. Once
the key is free the member is as it was, and has no job. -/
theorem Distinct.dropped (h : f.Distinct) (hf : f.Retries) (hover : f.Lingers key)
    (command : Command S) :
    let g := f.pass (.obey command)
    g.jobsFor key = [] ∧ (g.pass (.release key)).members = g.members
      ∧ (g.pass (.release key)).Free key := by
  intro g
  obtain ⟨-, -, hfinished⟩ := obey_watched hf key command
  have hstill : g.Lingers key := by
    change key ∈ (f.obey command).2.healing.finished
    rw [hfinished]
    exact hover
  have hdistinct : g.Distinct := h.pass (.obey command)
  have hnone := hdistinct.jobsFor_of_lingers hstill
  exact ⟨hnone, rfl, hdistinct.free_of_release hnone⟩

/-! ## Runs -/

/-- A member at the end of a run is what it was at the beginning. -/
theorem exists_alike {members : List (Member S)} {m : Member S} (hm : members[i]? = some m)
    (healing : Healing) (window : Nat) (run : List (Moment S)) :
    ∃ s, ((Fleet.new members healing window).through run).subscriber? i = some s
      ∧ m.subscriber.Alike s := by
  obtain ⟨events, hhosts⟩ := (hosts_new hm healing window).through run
  exact ⟨_, hhosts.subscriber, Client.after_alike events (.new m.subscriber)⟩

/-- A slave submits no job. -/
theorem not_submits_of_slave {s : Subscriber S} (hs : f.subscriber? j = some s)
    (hslave : s.settings.role = .slave) (key : String) (command : Command S) :
    ¬f.Submits j key command := by
  rintro ⟨t, a, block, -, ht, hblock, -⟩
  obtain rfl := Option.some.inj (hs.symm.trans ht)
  have hmaster : s.settings.role = .master := s.asked_allowed a _ hblock
  cases hslave.symm.trans hmaster

/-- A member accepts a batch that tells of a block after the first one, and holds
nothing then, nor at any later moment of a run. -/
structure Misses (f : Fleet S) (i : Nat) (logs : List Log) (headers : Headers)
    (later : List (Moment S)) : Prop where
  accepts : ∃ m, f.member? i = some m ∧ ¬m.subscriber.Rejects logs headers
    ∧ 0 < newestOf m.subscriber.replica.pointer (delivered logs headers)
  lacks : (f.pass (.obey (.member i (.update logs headers)))).LacksAlong i later

/-- In any run in which nobody else submits the job of a master: from an update that
leaves it without a snapshot until it holds one, is asleep or given up, exactly one
job for it is alive, and an attempt that fails changes neither. This is so if no job
that is done has the key when the update comes, and only then: else the update gets no
job, and there is none when the key is free. An attempt that finds nothing to do ends
the job and builds nothing. A slave submits no job. -/
theorem healed_by_one_job (members : List (Member S)) (i : Nat) (m₀ : Member S)
    (hm₀ : members[i]? = some m₀) (hmaster : m₀.subscriber.settings.role = .master)
    (delay maxDelay window : Nat) (run : List (Moment S)) :
    let key := m₀.subscriber.healKey
    let start := Fleet.new members (.retried (.new delay maxDelay)) window
    let f := start.through run
    start.Unrivalled i key run →
      (∀ logs headers later, f.Misses i logs headers later → ¬f.Lingers key →
        let g := (f.pass (.obey (.member i (.update logs headers)))).through later
        ∃ t, g.jobsFor key = [t] ∧ t.job.member = i
          ∧ ∀ m e, g.member? i = some m → m.source t.job.block = .error e →
            (g.pass (.attempt key)).subscriber? i = some m.subscriber
              ∧ ∃ u, (g.pass (.attempt key)).jobsFor key = [u] ∧ u.job = t.job)
        ∧ (∀ logs headers, f.Misses i logs headers [] → f.Lingers key →
          let g := f.pass (.obey (.member i (.update logs headers)))
          g.jobsFor key = [] ∧ (g.pass (.release key)).Lacks i ∧ (g.pass (.release key)).Free key)
        ∧ ((∀ m, f.member? i = some m → m.subscriber.healed = true) →
          (f.pass (.attempt key)).jobsFor key = []
            ∧ (f.pass (.attempt key)).members[i]? = f.members[i]?
            ∧ ((f.pass (.attempt key)).pass (.release key)).Free key)
        ∧ ∀ j m, members[j]? = some m → m.subscriber.settings.role = .slave →
          ∀ other command, ¬f.Submits j other command := by
  intro key start f hunrivalled
  obtain ⟨howned, hretries⟩ : f.Owned i key ∧ f.Retries :=
    Owned.through run (f := start) (Or.inl rfl) ⟨_, rfl⟩ hunrivalled
  have hdistinct : f.Distinct := Distinct.through run (f := start) List.nodup_nil
  refine ⟨fun logs headers later hmisses hover => ?_, fun logs headers hmisses hover => ?_,
    fun hhealed => ?_, fun j m hm hslave other command => ?_⟩
  · obtain ⟨⟨m, hm, haccepts, hseen⟩, hlacks⟩ := hmisses
    obtain ⟨s, hs, halike⟩ := exists_alike hm₀ (.retried (.new delay maxDelay)) window run
    obtain rfl : s = m.subscriber :=
      Option.some.inj (hs.symm.trans (subscriber?_of_members (members_of_member? hm)))
    have hkey : m.subscriber.healKey = key := halike.healKey
    have hrole : m.subscriber.settings.role = .master := halike.settings ▸ hmaster
    have hasked := (hkey ▸ howned).update hretries (hkey ▸ hover) hm hrole haccepts hseen
      hlacks.start
    rw [hkey] at hasked
    obtain ⟨⟨t, ht, hown⟩, hlast, hbare⟩ :=
      hasked.through later (pass_watched hretries key _).1 hlacks
    refine ⟨t, ht, hown, fun m e hm hfails => ?_⟩
    obtain ⟨m', hm', hbare⟩ := hbare
    obtain rfl := Option.some.inj (hm'.symm.trans hm)
    exact Tended.attempt_failing hlast ht hown hm hbare hfails
  · obtain ⟨hnone, hmembers, hfree⟩ :=
      hdistinct.dropped hretries hover (.member i (.update logs headers))
    exact ⟨hnone, hmisses.lacks, hfree⟩
  · obtain ⟨hnone, hmembers⟩ := howned.attempt_healed hretries hhealed
    exact ⟨hnone, hmembers, (hdistinct.pass (.attempt key)).free_of_release hnone⟩
  · obtain ⟨s, hs, halike⟩ := exists_alike hm (.retried (.new delay maxDelay)) window run
    exact not_submits_of_slave hs (halike.settings ▸ hslave) other command

/-- A master, whose first nine snapshots from scratch fail. -/
def needy : Member Counter :=
  ⟨.new ⟨"g", "p"⟩ (Counter.venue 0xaa) .default, Counter.supply 0 9, 0, false⟩

def together : List (Member Counter) :=
  [needy, ⟨.new ⟨"g", "q"⟩ (Counter.venue 0xbb) { Settings.default with role := .slave },
    Counter.supply 0 9, 0, false⟩]

def deprived : Fleet Counter := .new together (.retried (.new 1000 60000)) 60000

def headed (block : Nat) : Headers :=
  .ofList [⟨block, BitVec.ofNat 256 block, BitVec.ofNat 256 (block - 1), 12 * block⟩]

/-- A batch without logs that tells the master of one block. -/
def telling (block : Nat) : Moment Counter := .obey (.member 0 (.update [] (headed block)))

/-- A master whose second snapshot from scratch is the only one that does not fail. -/
def fickle : Member Counter :=
  ⟨.new ⟨"g", "p"⟩ (Counter.venue 0xaa) .default,
    fun call => Counter.supply 0 1 (if call = 1 then 1 else 0), 0, false⟩

def wavering : Fleet Counter := .new [fickle] (.retried (.new 1000 60000)) 60000

/-- The job of the first update installs a snapshot. It has not given its key back when
block 20 is replaced. -/
def unreleased : List (Moment Counter) :=
  [telling 20, .attempt (jobKey "g/p"), .obey (.member 0 .invalidate),
    .obey (.member 0 (.rollback 19))]

theorem deprived_splits : deprived.Splits "g/p" (· == 0) := by
  refine ⟨fun k s hs => ?_, ⟨_, rfl⟩, nofun⟩
  match k with
  | 0 => cases hs; decide
  | 1 => cases hs; decide
  | k + 2 => cases hs

theorem wavering_splits : wavering.Splits "g/p" (· == 0) := by
  refine ⟨fun k s hs => ?_, ⟨_, rfl⟩, nofun⟩
  match k with
  | 0 => cases hs; decide
  | k + 1 => cases hs

theorem wavering_misses :
    (wavering.through unreleased).Misses 0 [] (headed 21) [.release (jobKey "g/p")] := by
  obtain ⟨m, hm, hlenient⟩ : ∃ m, (wavering.through unreleased).member? 0 = some m
      ∧ m.subscriber.settings.policy = .lenient := by
    have hsome : ((wavering.through unreleased).member? 0).any
        (·.subscriber.settings.policy == .lenient) = true := by
      decide +kernel
    simpa [Option.any_eq_true] using hsome
  have hseen : 0 < newestOf m.subscriber.replica.pointer (delivered [] (headed 21)) :=
    Nat.lt_of_lt_of_le (Nat.succ_pos 20) (Nat.le_max_right _ 21)
  have hupdated : ((wavering.through unreleased).pass (telling 21)).Lacks 0 := by decide +kernel
  have hreleased : (((wavering.through unreleased).pass (telling 21)).pass
      (.release (jobKey "g/p"))).Lacks 0 := by decide +kernel
  exact ⟨⟨m, hm, Subscriber.accepts_of_lenient hlenient, hseen⟩, hupdated, hreleased⟩

/-- Two updates and an attempt fail, and the job is there; when the master is given
up, the next attempt ends it. The slave submits none. An update that comes before a key
is given back gets no job, and the key is free afterwards. -/
theorem healed_by_one_job_deprived :
    (∃ t, (((deprived.through [telling 20]).pass (telling 30)).through
        [.attempt (jobKey "g/p")]).jobsFor (jobKey "g/p") = [t] ∧ t.job.member = 0)
      ∧ ((deprived.through [telling 20, .obey (.release 0)]).pass
        (.attempt (jobKey "g/p"))).jobsFor (jobKey "g/p") = []
      ∧ (∀ other command, ¬(deprived.through [telling 20]).Submits 1 other command)
      ∧ ((wavering.through unreleased).pass (telling 21)).jobsFor (jobKey "g/p") = []
      ∧ (((wavering.through unreleased).pass (telling 21)).pass
        (.release (jobKey "g/p"))).Free (jobKey "g/p") := by
  have hbefore : ∃ m, (deprived.through [telling 20]).member? 0 = some m
      ∧ ¬m.subscriber.Rejects [] (headed 30)
      ∧ 0 < newestOf m.subscriber.replica.pointer (delivered [] (headed 30)) := by
    refine ⟨_, rfl, ?_, Nat.succ_pos 29⟩
    rintro ⟨hstrict, -⟩
    cases hstrict
  have hupdated : ((deprived.through [telling 20]).pass (telling 30)).Lacks 0 :=
    ⟨_, rfl, rfl, rfl⟩
  have hattempted : (((deprived.through [telling 20]).pass (telling 30)).pass
      (.attempt (jobKey "g/p"))).Lacks 0 := ⟨_, rfl, rfl, rfl⟩
  have hgone : (deprived.through [telling 20, .obey (.release 0)]).member? 0 = none := rfl
  have hlingers : (wavering.through unreleased).Lingers (jobKey "g/p") := by
    rw [Lingers]
    decide +kernel
  have hruns := fun run => healed_by_one_job together 0 needy rfl rfl 1000 60000 60000 run
    (deprived_splits.unrivalled (fun k hk => by simpa using hk) run)
  obtain ⟨t, ht, hown, -⟩ := (hruns [telling 20]).1 [] (headed 30) [.attempt (jobKey "g/p")]
    ⟨hbefore, hupdated, hattempted⟩ nofun
  obtain ⟨-, hdropped, -⟩ := healed_by_one_job [fickle] 0 fickle rfl rfl 1000 60000 60000
    unreleased (wavering_splits.unrivalled (fun k hk => by simpa using hk) unreleased)
  obtain ⟨hnone, -, hfree⟩ := hdropped [] (headed 21)
    ⟨wavering_misses.accepts, wavering_misses.lacks.start⟩ hlingers
  refine ⟨⟨t, ht, hown⟩, ?_, (hruns [telling 20]).2.2.2 1 _ rfl rfl, hnone, hfree⟩
  refine ((hruns [telling 20, .obey (.release 0)]).2.2.1 fun m hm => ?_).1
  cases hgone.symm.trans hm

/-- Block 20 is replaced and the next update fails before the job that healed the master
has given its key back. The update gets no job therefore, and the master is left without
one. -/
theorem left_without_job :
    let key := jobKey "g/p"
    let f := wavering.through unreleased
    wavering.Unrivalled 0 key unreleased ∧ f.Misses 0 [] (headed 21) [.release key]
      ∧ ((f.pass (telling 21)).through [.release key]).jobsFor key = [] := by
  have hunrivalled := wavering_splits.unrivalled (fun k hk => by simpa using hk) unreleased
  exact ⟨hunrivalled, wavering_misses, by decide +kernel⟩

end Fleet

end ChainReplica
