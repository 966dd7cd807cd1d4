import ChainReplica.Proofs.Moments
import ChainReplica.Proofs.SharedRecord

/-!
# What does not concern a subscription

Two fleets are the same for the subscriptions with one text (`Fleet.SameFor`) if
their members, their cached snapshots, their queued writes, their job and their
refreshes are, and so are the clocks and what fails. What happens to both fleets
keeps them so, and what a member does whose subscription has another text is not
noticed; the lemmas that end in `_other` say so. A run and the same run without the
operations of such a member therefore lead to fleets that are the same
(`Fleet.SameFor.through`).

Left out are the tally of messages, the list of writes that have run, and the
registry, since no member reads them. What another group member has published as
the newest block may decide from which block on a subscriber registers, and nothing
else (`Subscriber.establish_processed`).
-/

namespace ChainReplica

variable {S : Type}

theorem mem_iff_of_filter_eq {α : Type} {p : α → Bool} {xs ys : List α} {x : α}
    (h : xs.filter p = ys.filter p) (hx : p x = true) : x ∈ xs ↔ x ∈ ys := by
  have hmem : x ∈ xs.filter p ↔ x ∈ ys.filter p := by rw [h]
  simpa only [List.mem_filter, hx, and_true] using hmem

/-- A write under a subscription with the text. -/
def CacheWrite.concerns (text : String) : CacheWrite → Bool
  | .set key _ _ => key.text == text
  | .publish _ _ => false

/-- What the masters of the group have processed decides from which block on a
subscriber registers, and nothing else. -/
theorem Subscriber.establish_processed (s : Subscriber S) (world : Surroundings S)
    (processed : Option Nat) (block : Nat) (start : Start S) :
    let o := s.establish world block start
    let o' := s.establish { world with processed := processed } block start
    o'.subscriber = o.subscriber ∧ (o'.effects = o.effects
      ∨ ∃ front b b', o.effects = front ++ [.register b]
        ∧ o'.effects = front ++ [.register b']) := by
  cases start with
  | supplied x => exact ⟨rfl, Or.inl rfl⟩
  | fresh => exact ⟨rfl, Or.inl rfl⟩
  | usual =>
      simp only [establish]
      split
      · cases world.published with
        | none => exact ⟨rfl, Or.inl rfl⟩
        | some record =>
            exact ⟨rfl, Or.inr ⟨(s.put (some record.snapshot) record.block).2, _, _, rfl, rfl⟩⟩
      · exact ⟨rfl, Or.inl rfl⟩

/-! ## Jobs with one key -/

namespace Scheduler

variable {J : Type} (s : Scheduler J) {key key' : String}

/-- What a scheduler has to do with one key. -/
def part (key : String) : Scheduler J :=
  { s with
    tasks := s.tasks.filter fun t => t.key == key
    finished := s.finished.filter (· == key) }

/-- After the turn of a job the jobs with other keys are the same. -/
theorem part_turned_of_ne {waiting : Option (Task J)} (hwaiting : ∀ u ∈ waiting, u.key = key)
    (hkey : key ≠ key') : (s.turned key waiting).part key' = s.part key' := by
  have hothers : ((s.tasks.filter fun t => t.key != key).filter fun t => t.key == key') =
      s.tasks.filter fun t => t.key == key' := by
    rw [List.filter_filter]
    refine List.filter_congr fun t _ => ?_
    by_cases ht : t.key = key'
    · simp [ht, Ne.symm hkey]
    · simp [ht]
  have hnone : (waiting.toList.filter fun t => t.key == key') = [] :=
    List.filter_eq_nil_iff.mpr fun u hu => by
      simp [hwaiting u (Option.mem_toList.mp hu), hkey]
  simp only [part, turned, List.filter_append, hothers, hnone, List.append_nil]
  split
  · rw [List.filter_cons_of_neg (by simpa using hkey)]
  · rfl

theorem tasks_part_turned {waiting : Option (Task J)} (hwaiting : ∀ u ∈ waiting, u.key = key) :
    ((s.turned key waiting).part key).tasks = waiting.toList := by
  have hothers : ((s.tasks.filter fun t => t.key != key).filter fun t => t.key == key) = [] :=
    List.filter_eq_nil_iff.mpr fun t ht => by simpa using (List.mem_filter.mp ht).2
  have hall : (waiting.toList.filter fun t => t.key == key) = waiting.toList :=
    List.filter_eq_self.mpr fun u hu => by simpa using hwaiting u (Option.mem_toList.mp hu)
  rw [part, turned, List.filter_append, hothers, hall, List.nil_append]

theorem part_turned_self {waiting : Option (Task J)} (hwaiting : ∀ u ∈ waiting, u.key = key) :
    (s.turned key waiting).part key = (s.part key).turned key waiting := by
  have hothers : ((s.part key).tasks.filter fun t => t.key != key) = [] :=
    List.filter_eq_nil_iff.mpr fun t ht => by simpa using (List.mem_filter.mp ht).2
  have htasks : ((s.part key).turned key waiting).tasks = waiting.toList := by
    rw [turned, hothers, List.nil_append]
  have hfinished : ((s.turned key waiting).part key).finished =
      ((s.part key).turned key waiting).finished := by
    simp only [part, turned]
    split
    · exact List.filter_cons_of_pos (by simp)
    · rfl
  exact (mk.injEq ..).mpr
    ⟨rfl, rfl, (s.tasks_part_turned hwaiting).trans htasks.symm, hfinished⟩

theorem part_release : (s.release key).part key' = (s.part key').release key := by
  simp only [part, release, List.erase_filter]

theorem part_isRunning : (s.part key).isRunning key = s.isRunning key := by
  have hmem : key ∈ (s.part key).keys ↔ key ∈ s.keys := by
    simp [keys, part]
  rw [Bool.eq_iff_iff, isRunning_iff, isRunning_iff, hmem]

/-- A submitted job comes to the jobs with its own key. -/
theorem part_submit (now : Nat) (submitted : String) (job : J) :
    (s.submit now submitted job).part key =
      if submitted = key then (s.part key).submit now submitted job else s.part key := by
  by_cases hkey : submitted = key
  · subst hkey
    rw [if_pos rfl, submit, submit, part_isRunning]
    split
    · rfl
    · simp [part, List.filter_append]
  · rw [if_neg hkey, submit]
    split
    · rfl
    · simp [part, List.filter_append, hkey]

end Scheduler

def Healing.part (key : String) : Healing → Option (Scheduler HealJob)
  | .listed _ => none
  | .retried scheduler => some (scheduler.part key)

theorem Healing.task?_eq (healing : Healing) (key : String) :
    healing.task? key = (healing.part key).bind fun own => own.tasks.find? (·.key == key) := by
  cases healing with
  | listed jobs => rfl
  | retried scheduler =>
      rw [task?, part, Option.bind_some, Scheduler.part, List.find?_filter]
      simp only [and_self, Bool.decide_eq_true]

def Healing.submit (now : Nat) (job : HealJob) : Healing → Healing
  | .listed jobs => .listed (jobs ++ [job])
  | .retried scheduler => .retried (scheduler.submit now job.key job)

theorem Healing.part_submit (healing : Healing) (now : Nat) (job : HealJob) (key : String) :
    (healing.submit now job).part key =
      if job.key = key then (healing.part key).map fun own => own.submit now job.key job
      else healing.part key := by
  cases healing with
  | listed jobs => exact (ite_self none).symm
  | retried scheduler =>
      rw [submit, part, part, Option.map_some, Scheduler.part_submit]
      split <;> rfl

theorem Healing.part_release (healing : Healing) (key key' : String) :
    (healing.release key).part key' = (healing.part key').map (·.release key) := by
  cases healing with
  | listed jobs => rfl
  | retried scheduler => exact congrArg some scheduler.part_release

namespace Fleet

theorem submit_eq (f : Fleet S) (job : HealJob) :
    f.submit job = { f with healing := f.healing.submit f.now job } := by
  rw [submit]
  cases f.healing <;> rfl

/-- Two fleets that are the same as far as the subscriptions with one text, whose
members are at the indices `mine`, are concerned. -/
structure SameFor (text : String) (mine : Nat → Bool) (f g : Fleet S) : Prop where
  members : ∀ i, mine i = true → f.members[i]? = g.members[i]?
  cached : ∀ key, key.text = text → f.cache.find? key = g.cache.find? key
  queued : f.queued.filter (·.concerns text) = g.queued.filter (·.concerns text)
  jobs : f.healing.part (jobKey text) = g.healing.part (jobKey text)
  refreshes : f.refreshes.filter (mine ·.member) = g.refreshes.filter (mine ·.member)
  outage : f.outage = g.outage
  rejecting : f.rejecting = g.rejecting
  now : f.now = g.now
  calendar : f.calendar = g.calendar

variable {text : String} {mine : Nat → Bool} {f g h : Fleet S} {i k : Nat} {s : Subscriber S}

namespace SameFor

theorem refl (f : Fleet S) : SameFor text mine f f :=
  ⟨fun _ _ => rfl, fun _ _ => rfl, rfl, rfl, rfl, rfl, rfl, rfl, rfl⟩

theorem symm (hsame : SameFor text mine f g) : SameFor text mine g f :=
  ⟨fun i hi => (hsame.members i hi).symm, fun key hkey => (hsame.cached key hkey).symm,
    hsame.queued.symm, hsame.jobs.symm, hsame.refreshes.symm, hsame.outage.symm,
    hsame.rejecting.symm, hsame.now.symm, hsame.calendar.symm⟩

theorem trans (hfg : SameFor text mine f g) (hgh : SameFor text mine g h) :
    SameFor text mine f h :=
  ⟨fun i hi => (hfg.members i hi).trans (hgh.members i hi),
    fun key hkey => (hfg.cached key hkey).trans (hgh.cached key hkey),
    hfg.queued.trans hgh.queued, hfg.jobs.trans hgh.jobs, hfg.refreshes.trans hgh.refreshes,
    hfg.outage.trans hgh.outage, hfg.rejecting.trans hgh.rejecting, hfg.now.trans hgh.now,
    hfg.calendar.trans hgh.calendar⟩

/-- What does not concern a text may be done to both. -/
theorem beside {f' g' : Fleet S} (hsame : SameFor text mine f g) (hf : SameFor text mine f f')
    (hg : SameFor text mine g g') : SameFor text mine f' g' :=
  hf.symm.trans (hsame.trans hg)

/-! ## Members -/

theorem modify (hsame : SameFor text mine f g) (k : Nat) (change : Member S → Member S) :
    SameFor text mine (f.modify k change) (g.modify k change) :=
  { hsame with
    members := fun i hi => by
      simp only [Fleet.modify, List.getElem?_modify, hsame.members i hi] }

theorem modify_other (hk : mine k = false) (change : Member S → Member S) :
    SameFor text mine f (f.modify k change) :=
  { refl f with
    members := fun i hi => by
      have hne : k ≠ i := by
        rintro rfl
        exact Bool.false_ne_true (hk.symm.trans hi)
      exact (List.getElem?_modify_ne _ _ hne).symm }

/-! ## Effects -/

theorem queued_other {w : CacheWrite} (hw : w.concerns text = false) :
    SameFor text mine f (f.enqueue w) :=
  { refl f with
    queued := by
      simp only [enqueue, List.filter_append, List.filter_cons, hw, List.filter_nil,
        Bool.false_eq_true, if_false, List.append_nil] }

/-- Where a member registers for logs concerns nobody else. -/
theorem register (f : Fleet S) (s : Subscriber S) (block : Nat) :
    SameFor text mine f (f.register s block) := by
  rw [Fleet.register]
  split
  · exact refl f
  · exact { refl f with }

theorem carry (hsame : SameFor text mine f g) (k : Nat) (s : Subscriber S) (e : Effect S) :
    SameFor text mine (carry k s f e) (carry k s g e) := by
  cases e with
  | generate block => exact hsame.modify k _
  | store block x =>
      refine { hsame with queued := ?_ }
      simp only [Fleet.carry, enqueue, List.filter_append, hsame.queued]
  | announce block =>
      refine { hsame with queued := ?_ }
      simp only [Fleet.carry, enqueue, List.filter_append, hsame.queued]
  | register block => exact hsame.beside (register f s block) (register g s block)
  | heal block =>
      rw [Fleet.carry, Fleet.carry, submit_eq, submit_eq]
      refine { hsame with jobs := ?_ }
      simp only [Healing.part_submit, hsame.jobs, hsame.now]
  | refresh =>
      refine { hsame with refreshes := ?_ }
      simp only [Fleet.carry, note, List.filter_append, hsame.refreshes, hsame.now]
  | coalesce => exact { hsame with }

/-- What another member asks for concerns it alone. -/
theorem carry_other (hk : mine k = false) (hs : s.id.text ≠ text) (e : Effect S) :
    SameFor text mine f (Fleet.carry k s f e) := by
  cases e with
  | generate block => exact modify_other hk _
  | store block x => exact queued_other (by simpa [CacheWrite.concerns] using hs)
  | announce block => exact queued_other rfl
  | register block => exact register f s block
  | heal block =>
      rw [Fleet.carry, submit_eq]
      refine { refl f with jobs := ?_ }
      have hkey : s.healKey ≠ jobKey text := fun hkey => hs (jobKey_inj.mp hkey)
      simp only [Healing.part_submit, if_neg hkey]
  | refresh =>
      refine { refl f with refreshes := ?_ }
      simp only [Fleet.carry, note, List.filter_append, List.filter_cons, hk, List.filter_nil,
        Bool.false_eq_true, if_false, List.append_nil]
  | coalesce => exact { refl f with }

theorem commit (hsame : SameFor text mine f g) (k : Nat) (s : Subscriber S)
    (effects : List (Effect S)) :
    SameFor text mine (f.commit k s effects) (g.commit k s effects) := by
  have hput := hsame.modify k fun m => { m with subscriber := s }
  rw [Fleet.commit, Fleet.commit]
  generalize (f.modify k fun m => { m with subscriber := s }) = f' at hput
  generalize (g.modify k fun m => { m with subscriber := s }) = g' at hput
  induction effects generalizing f' g' with
  | nil => exact hput
  | cons e rest ih => exact ih _ _ (hput.carry k s e)

theorem commit_other (hk : mine k = false) (hs : s.id.text ≠ text) (effects : List (Effect S)) :
    SameFor text mine f (f.commit k s effects) := by
  have hput : SameFor text mine f (f.modify k fun m => { m with subscriber := s }) :=
    modify_other hk _
  rw [Fleet.commit]
  generalize (f.modify k fun m => { m with subscriber := s }) = f' at hput
  induction effects generalizing f' with
  | nil => exact hput
  | cons e rest ih => exact ih _ (hput.trans (carry_other hk hs e))

/-! ## The cache -/

theorem cache_set (hsame : SameFor text mine f g) (key : Subscription) (value : String)
    (ttl : Option Nat) :
    SameFor text mine { f with cache := f.cache.set f.calendar key value ttl }
      { g with cache := g.cache.set g.calendar key value ttl } :=
  { hsame with
    cached := fun other hother => by
      by_cases hkey : key = other
      · subst hkey
        rw [Store.find?_set_self, Store.find?_set_self, hsame.cached key hother, hsame.calendar]
      · rw [Store.find?_set_of_ne hkey, Store.find?_set_of_ne hkey, hsame.cached other hother] }

theorem cache_get (hsame : SameFor text mine f g) (key : Subscription) :
    SameFor text mine { f with cache := (f.cache.get f.calendar key).2 }
      { g with cache := (g.cache.get g.calendar key).2 } :=
  { hsame with
    cached := fun other hother => by
      by_cases hkey : key = other
      · subst hkey
        rw [Store.find?_get_self, Store.find?_get_self, hsame.cached key hother, hsame.calendar]
      · rw [Store.find?_get_of_ne hkey, Store.find?_get_of_ne hkey, hsame.cached other hother] }

theorem write (hsame : SameFor text mine f g) (w : CacheWrite) :
    SameFor text mine (f.write w).2 (g.write w).2 := by
  rw [write_eq, write_eq]
  refine { hsame with cached := fun key hkey => ?_ }
  change (f.cacheWritten w).find? key = (g.cacheWritten w).find? key
  have hcached := hsame.cached key hkey
  cases w with
  | set other value ttl =>
      rw [cacheWritten, cacheWritten, hsame.outage]
      split
      · exact hcached
      · exact (hsame.cache_set other value ttl).cached key hkey
  | publish topic payload => exact hcached

theorem write_other {w : CacheWrite} (hw : w.concerns text = false) :
    SameFor text mine f (f.write w).2 := by
  rw [write_eq]
  refine { refl f with cached := fun key hkey => ?_ }
  change f.cache.find? key = (f.cacheWritten w).find? key
  cases w with
  | set other value ttl =>
      rw [cacheWritten]
      split
      · rfl
      · have hne : other ≠ key := by
          rintro rfl
          simp [CacheWrite.concerns, hkey] at hw
        exact (Store.find?_set_of_ne hne value ttl).symm
  | publish topic payload => rfl

theorem published (hsame : SameFor text mine f g) (hs : s.id.text = text) :
    f.published s = g.published s := by
  rw [Fleet.published, Fleet.published, lookup, lookup, Store.value?, Store.value?,
    hsame.cached s.id hs, hsame.outage, hsame.calendar]

/-! ## Members that act -/

theorem acts_other (hf : f.Splits text mine) {e : Happening S} {a : Action S}
    (hacting : f.acting? e = some (k, a)) (hk : mine k = false) :
    SameFor text mine f (f.happen e) := by
  obtain ⟨s, hs, hhappen⟩ := happen_of_acting hacting
  have hid : (s.act a).id = s.id := ((Subscriber.Alike.refl s).act a).id
  have htext : s.id.text ≠ text := fun htext =>
    Bool.false_ne_true (hk.symm.trans ((hf.members k s hs).mp htext))
  rw [hhappen]
  exact commit_other hk (hid ▸ htext) _

theorem member_other (hf : f.Splits text mine) (hk : mine k = false) (command : MemberCommand S) :
    SameFor text mine f (f.obey (.member k command)).2 := by
  cases hacting : f.acting? (.obey (.member k command)) with
  | none =>
      rw [member_of_idle hacting]
      exact refl f
  | some acting =>
      obtain ⟨j, a⟩ := acting
      obtain ⟨m, -, hmap⟩ := Option.bind_eq_some_iff.mp hacting
      obtain ⟨b, -, hpair⟩ := Option.map_eq_some_iff.mp hmap
      obtain rfl : k = j := congrArg Prod.fst hpair
      exact acts_other hf hacting hk

theorem commit_register (hsame : SameFor text mine f g) (k : Nat) (s : Subscriber S)
    (effects : List (Effect S)) (block block' : Nat) :
    SameFor text mine (f.commit k s (effects ++ [.register block]))
      (g.commit k s (effects ++ [.register block'])) := by
  have hcommit := hsame.commit k s effects
  rw [Fleet.commit, List.foldl_append, Fleet.commit, List.foldl_append]
  exact hcommit.beside (register _ s block) (register _ s block')

theorem obeyMember (hsame : SameFor text mine f g) {m : Member S}
    (hid : m.subscriber.id.text = text) (k : Nat) (command : MemberCommand S) :
    SameFor text mine (f.obeyMember k m command).2 (g.obeyMember k m command).2 := by
  cases command with
  | establish block start =>
      -- The newest block of the group is kept under another text, and may differ.
      have hworld : g.surroundings m =
          { f.surroundings m with processed := (g.surroundings m).processed } := by
        simp only [surroundings, hsame.published hid, registration, hsame.rejecting]
      obtain ⟨hsubscriber, heffects⟩ := m.subscriber.establish_processed (f.surroundings m)
        (g.surroundings m).processed block start
      rw [← hworld] at hsubscriber heffects
      rw [Fleet.obeyMember, Fleet.obeyMember, hsubscriber]
      rcases heffects with heffects | ⟨front, b, b', hfront, hfront'⟩
      · rw [heffects]
        exact hsame.commit k _ _
      · rw [hfront, hfront']
        exact hsame.commit_register k _ front b b'
  | read least => exact hsame
  | checkpoint block => exact hsame
  | identify => exact hsame
  | _ => exact hsame.commit k _ _

theorem member?_eq (hsame : SameFor text mine f g) (hk : mine k = true) :
    f.member? k = g.member? k := by
  rw [member?, member?, hsame.members k hk]

theorem obey_member (hsame : SameFor text mine f g) (hf : f.Splits text mine)
    (hg : g.Splits text mine) (k : Nat) (command : MemberCommand S) :
    SameFor text mine (f.obey (.member k command)).2 (g.obey (.member k command)).2 := by
  cases hk : mine k with
  | false =>
      exact hsame.beside (member_other hf hk command) (member_other hg hk command)
  | true =>
      rw [obey, obey, hsame.member?_eq hk]
      cases hm : g.member? k with
      | none => exact hsame
      | some m =>
          have hs := subscriber?_of_members (members_of_member? hm)
          exact hsame.obeyMember ((hg.members k _ hs).mpr hk) k command

/-! ## Commands -/

theorem obey (hsame : SameFor text mine f g) (hf : f.Splits text mine) (hg : g.Splits text mine)
    (command : Command S) : SameFor text mine (f.obey command).2 (g.obey command).2 := by
  cases command with
  | member k command => exact hsame.obey_member hf hg k command
  | release k => exact hsame.modify k _
  | cacheSet key value ttl => exact hsame.cache_set key value ttl
  | cacheGet key => exact hsame.cache_get key
  | fail outage => exact { hsame with outage := rfl }
  | publishLatest group block =>
      exact hsame.write (.set (Store.latestKey group) (Store.latestText block) none)
  | fetchLatest group => exact hsame
  | reject on => exact { hsame with rejecting := rfl }
  | registration id => exact hsame
  | runJob index =>
      obtain ⟨scheduler, hscheduler⟩ := hf.retried
      obtain ⟨scheduler', hscheduler'⟩ := hg.retried
      rw [Fleet.obey, Fleet.obey, runListed, runListed, hscheduler, hscheduler']
      exact hsame
  | advance span => exact { hsame with now := congrArg (· + span) hsame.now }

/-! ## Jobs -/

theorem attempt (hsame : SameFor text mine f g) {job : HealJob} (hk : mine job.member = true) :
    (f.attempt job).1 = (g.attempt job).1
      ∧ SameFor text mine (f.attempt job).2 (g.attempt job).2 := by
  rw [Fleet.attempt, Fleet.attempt, hsame.member?_eq hk]
  cases g.member? job.member with
  | none => exact ⟨rfl, hsame⟩
  | some m => exact ⟨rfl, hsame.commit job.member _ _⟩

theorem attempt_other (hf : f.Splits text mine) {job : HealJob} (hk : mine job.member = false) :
    SameFor text mine f (f.attempt job).2 := by
  cases hacting : f.attempting? job with
  | none =>
      rw [attempt_of_none hacting]
      exact refl f
  | some acting =>
      obtain ⟨m, -, hpair⟩ := Option.map_eq_some_iff.mp hacting
      exact acts_other (e := .attempt job) (k := job.member) hf (hpair ▸ hacting) hk

theorem task?_eq (hsame : SameFor text mine f g) :
    f.healing.task? (jobKey text) = g.healing.task? (jobKey text) := by
  rw [Healing.task?_eq, Healing.task?_eq, hsame.jobs]

theorem runJob_other (hf : f.Splits text mine) {key : String} (hkey : key ≠ jobKey text) :
    SameFor text mine f (f.runJob key) := by
  obtain ⟨scheduler, hscheduler⟩ := hf.retried
  cases ht : f.healing.task? key with
  | none =>
      rw [runJob_of_none ht]
      exact refl f
  | some t =>
      obtain ⟨hlive, htkey⟩ := task?_eq_some ht
      have hk : mine t.job.member = false := by
        refine Bool.eq_false_iff.mpr fun hk => hkey ?_
        rw [← htkey]
        exact (hf.jobs t hlive).mpr hk
      rw [runJob_of_some hscheduler ht]
      refine { attempt_other hf hk with jobs := ?_ }
      rw [hscheduler]
      exact congrArg some
        (scheduler.part_turned_of_ne (Scheduler.key_of_turn htkey) hkey).symm

theorem runJob_own (hsame : SameFor text mine f g) (hf : f.Splits text mine)
    (hg : g.Splits text mine) :
    SameFor text mine (f.runJob (jobKey text)) (g.runJob (jobKey text)) := by
  obtain ⟨scheduler, hscheduler⟩ := hf.retried
  obtain ⟨scheduler', hscheduler'⟩ := hg.retried
  have htask := hsame.task?_eq
  cases ht : g.healing.task? (jobKey text) with
  | none =>
      rw [runJob_of_none ht, runJob_of_none (htask.trans ht)]
      exact hsame
  | some t =>
      obtain ⟨hlive, htkey⟩ := task?_eq_some ht
      -- Both find this task, and its attempt makes the same of its member.
      have hk : mine t.job.member = true := (hg.jobs t hlive).mp htkey
      obtain ⟨hdone, hattempt⟩ := hsame.attempt hk
      rw [runJob_of_some hscheduler (htask.trans ht), runJob_of_some hscheduler' ht, hdone]
      refine { hattempt with jobs := congrArg some ?_ }
      have hjobs := hsame.jobs
      rw [hscheduler, hscheduler'] at hjobs
      replace hjobs : scheduler.part (jobKey text) = scheduler'.part (jobKey text) :=
        Option.some.inj hjobs
      have hretry : scheduler.retry f.now t = scheduler'.retry g.now t := by
        have hmax : (scheduler.part (jobKey text)).maxDelay =
            (scheduler'.part (jobKey text)).maxDelay := by rw [hjobs]
        change scheduler.maxDelay = scheduler'.maxDelay at hmax
        rw [Scheduler.retry, Scheduler.retry, hsame.now, hmax]
      rw [hretry, Scheduler.part_turned_self scheduler (Scheduler.key_of_turn htkey),
        Scheduler.part_turned_self scheduler' (Scheduler.key_of_turn htkey), hjobs]

theorem runJob (hsame : SameFor text mine f g) (hf : f.Splits text mine)
    (hg : g.Splits text mine) (key : String) :
    SameFor text mine (f.runJob key) (g.runJob key) := by
  by_cases hkey : key = jobKey text
  · subst hkey
    exact hsame.runJob_own hf hg
  · exact hsame.beside (runJob_other hf hkey) (runJob_other hg hkey)

/-! ## Writes -/

theorem runWrite_other {w : CacheWrite} (hw : w.concerns text = false) :
    SameFor text mine f (f.runWrite w) := by
  rw [runWrite]
  split
  · have herased : SameFor text mine f { f with queued := f.queued.erase w } :=
      { refl f with
        queued := by
          have habsent : w ∉ f.queued.filter (·.concerns text) := fun hmem =>
            Bool.false_ne_true (hw.symm.trans (List.mem_filter.mp hmem).2)
          rw [← List.erase_filter, List.erase_of_not_mem habsent] }
    exact herased.trans (write_other hw)
  · exact refl f

theorem runWrite (hsame : SameFor text mine f g) (w : CacheWrite) :
    SameFor text mine (f.runWrite w) (g.runWrite w) := by
  cases hw : w.concerns text with
  | false => exact hsame.beside (runWrite_other hw) (runWrite_other hw)
  | true =>
      have hqueued : w ∈ f.queued ↔ w ∈ g.queued := mem_iff_of_filter_eq hsame.queued hw
      rw [Fleet.runWrite, Fleet.runWrite]
      by_cases hmem : w ∈ g.queued
      · rw [if_pos (hqueued.mpr hmem), if_pos hmem]
        have herased : SameFor text mine { f with queued := f.queued.erase w }
            { g with queued := g.queued.erase w } :=
          { hsame with
            queued := by
              simp only [← List.erase_filter, hsame.queued] }
        exact herased.write w
      · rw [if_neg (fun hf => hmem (hqueued.mp hf)), if_neg hmem]
        exact hsame

/-! ## Refreshes -/

theorem endRefresh_other (hf : f.Splits text mine) {r : Refresh} (hk : mine r.member = false) :
    SameFor text mine f (f.endRefresh r) := by
  cases hacting : f.acting? (.refresh r) with
  | none =>
      rw [Fleet.endRefresh, Option.map_eq_none_iff.mp hacting]
      exact refl f
  | some acting =>
      obtain ⟨m, -, hpair⟩ := Option.map_eq_some_iff.mp hacting
      exact acts_other (k := r.member) hf (hpair ▸ hacting) hk

theorem endRefresh (hsame : SameFor text mine f g) (hg : g.Splits text mine) {r : Refresh}
    (hk : mine r.member = true) : SameFor text mine (f.endRefresh r) (g.endRefresh r) := by
  rw [Fleet.endRefresh, Fleet.endRefresh, hsame.members r.member hk]
  cases hm : g.members[r.member]? with
  | none => exact hsame
  | some m =>
      have hid := (hg.members r.member _ (subscriber?_of_members hm)).mpr hk
      dsimp only
      rw [hsame.published hid]
      exact hsame.commit r.member _ _

theorem erase_refresh (hsame : SameFor text mine f g) (r : Refresh) :
    SameFor text mine { f with refreshes := f.refreshes.erase r }
      { g with refreshes := g.refreshes.erase r } :=
  { hsame with
    refreshes := by
      simp only [← List.erase_filter, hsame.refreshes] }

theorem runRefresh_other (hf : f.Splits text mine) {r : Refresh} (hk : mine r.member = false) :
    SameFor text mine f (f.runRefresh r) := by
  rw [runRefresh]
  split
  · have herased : SameFor text mine f { f with refreshes := f.refreshes.erase r } :=
      { refl f with
        refreshes := by
          have habsent : r ∉ f.refreshes.filter fun r => mine r.member := fun hmem =>
            Bool.false_ne_true (hk.symm.trans (List.mem_filter.mp hmem).2)
          rw [← List.erase_filter, List.erase_of_not_mem habsent] }
    have hsplits : ({ f with refreshes := f.refreshes.erase r } : Fleet S).Splits text mine :=
      ⟨hf.members, hf.retried, hf.jobs⟩
    exact herased.trans (endRefresh_other hsplits hk)
  · exact refl f

theorem runRefresh (hsame : SameFor text mine f g) (hf : f.Splits text mine)
    (hg : g.Splits text mine) (r : Refresh) :
    SameFor text mine (f.runRefresh r) (g.runRefresh r) := by
  cases hk : mine r.member with
  | false => exact hsame.beside (runRefresh_other hf hk) (runRefresh_other hg hk)
  | true =>
      have hwaits : r ∈ f.refreshes ↔ r ∈ g.refreshes :=
        mem_iff_of_filter_eq hsame.refreshes hk
      rw [Fleet.runRefresh, Fleet.runRefresh]
      by_cases hmem : r ∈ g.refreshes
      · rw [if_pos (hwaits.mpr hmem), if_pos hmem]
        have hsplits : ({ g with refreshes := g.refreshes.erase r } : Fleet S).Splits text mine :=
          ⟨hg.members, hg.retried, hg.jobs⟩
        exact (hsame.erase_refresh r).endRefresh hsplits hk
      · rw [if_neg (fun hf => hmem (hwaits.mp hf)), if_neg hmem]
        exact hsame

/-! ## Runs -/

/-- What happens to both fleets keeps them the same. -/
theorem pass (hsame : SameFor text mine f g) (hf : f.Splits text mine) (hg : g.Splits text mine)
    (e : Moment S) : SameFor text mine (f.pass e) (g.pass e) := by
  cases e with
  | obey command => exact hsame.obey hf hg command
  | write w => exact hsame.runWrite w
  | attempt key => exact hsame.runJob hf hg key
  | release key =>
      refine { hsame with jobs := ?_ }
      simp only [Fleet.pass, Healing.part_release, hsame.jobs]
  | refresh r => exact hsame.runRefresh hf hg r
  | age span => exact { hsame with calendar := congrArg (· + span) hsame.calendar }

theorem pass_other (hf : f.Splits text mine) (hk : mine k = false) {e : Moment S}
    (he : e.by k = true) : SameFor text mine f (f.pass e) := by
  cases e with
  | obey command =>
      cases command with
      | member j command =>
          obtain rfl : j = k := by simpa [Moment.by] using he
          exact member_other hf hk command
      | release j =>
          obtain rfl : j = k := by simpa [Moment.by] using he
          exact modify_other hk _
      | _ => cases he
  | _ => cases he

theorem tries_other (hf : f.Splits text mine) (hi : mine i = true) {key : String}
    (hkey : key ≠ jobKey text) : f.tries i (.attempt key) = false := by
  cases ht : f.healing.task? key with
  | none => rw [tries, ht, Option.any_none]
  | some t =>
      obtain ⟨hlive, htkey⟩ := task?_eq_some ht
      rw [tries, ht, Option.any_some, beq_eq_false_iff_ne]
      rintro rfl
      exact hkey (htkey.symm.trans ((hf.jobs t hlive).mpr hi))

theorem tries_eq (hsame : SameFor text mine f g) (hf : f.Splits text mine)
    (hg : g.Splits text mine) (hi : mine i = true) (e : Moment S) : f.tries i e = g.tries i e := by
  cases e with
  | attempt key =>
      by_cases hkey : key = jobKey text
      · rw [tries, tries, hkey, hsame.task?_eq]
      · rw [tries_other hf hi hkey, tries_other hg hi hkey]
  | _ => rfl

/-- Without what another member does, a run leads to the same, and attempts the
same jobs. -/
theorem through (hk : mine k = false) (hi : mine i = true) : ∀ (run : List (Moment S))
    {f g : Fleet S}, SameFor text mine f g → f.Splits text mine → g.Splits text mine →
    SameFor text mine (f.through run) (g.through (run.filter fun e => !e.by k))
      ∧ f.attempts i run = g.attempts i (run.filter fun e => !e.by k)
  | [], _, _, hsame, _, _ => ⟨hsame, rfl⟩
  | e :: rest, f, g, hsame, hf, hg => by
      cases he : e.by k with
      | true =>
          -- The second run has no counterpart of this operation.
          have hnone : f.tries i e = false := by
            cases e with
            | obey command => rfl
            | _ => cases he
          obtain ⟨hrest, hattempts⟩ :=
            through hk hi rest ((pass_other hf hk he).symm.trans hsame) (hf.pass e) hg
          rw [List.filter_cons, he, Fleet.through, attempts, hnone]
          exact ⟨hrest, (Nat.zero_add _).trans hattempts⟩
      | false =>
          obtain ⟨hrest, hattempts⟩ :=
            through hk hi rest (hsame.pass hf hg e) (hf.pass e) (hg.pass e)
          rw [List.filter_cons, he, Fleet.through, attempts, hattempts, hsame.tries_eq hf hg hi e]
          exact ⟨hrest, rfl⟩

end SameFor

/-- The jobs of a member are jobs for its subscription. -/
theorem Splits.jobsOf_eq (hf : f.Splits text mine) (hi : mine i = true) :
    f.jobsOf i = ((f.healing.part (jobKey text)).elim [] (·.tasks)).filter fun t =>
      t.job.member == i := by
  obtain ⟨scheduler, hscheduler⟩ := hf.retried
  have hjobs := hf.jobs
  rw [hscheduler] at hjobs
  rw [jobsOf, hscheduler]
  change scheduler.tasks.filter _ = (scheduler.tasks.filter _).filter _
  rw [List.filter_filter]
  refine List.filter_congr fun t ht => ?_
  by_cases hmember : t.job.member = i
  · have hkey : t.key = jobKey text := (hjobs t ht).mpr (hmember ▸ hi)
    simp [hmember, hkey]
  · simp [hmember]

end Fleet

end ChainReplica
