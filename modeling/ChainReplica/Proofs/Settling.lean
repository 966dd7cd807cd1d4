import ChainReplica.Proofs.Asking
import ChainReplica.Proofs.Moments

/-!
# Settling is a run

`Fleet.settle` lets everything run that is due, in an order of its own: the queued
writes, then the jobs, each as often as it fails without a wait, then the
refreshes, and the writes that these have queued. All of these are turns of tasks
(`Fleet.settle_turns`). So a fleet that is driven by `Fleet.step` goes through one
of the runs that its commands may lead to (`Fleet.steps_eq_through`), and what holds
of all runs holds of it.

In a run a job is found by its key, so no key may be taken twice; the scheduler sees
to that (`Fleet.Distinct`).
-/

namespace ChainReplica

variable {S : Type}

namespace Scheduler

variable {J : Type} {s : Scheduler J} {key : String}

theorem nodup_keys_submit (h : s.keys.Nodup) (now : Nat) (job : J) :
    (s.submit now key job).keys.Nodup := by
  rw [submit]
  split
  · exact h
  · rename_i hnew
    have hkeys : ({ s with tasks := s.tasks ++ [⟨key, job, 0, now, s.initialDelay⟩] }
        : Scheduler J).keys = s.tasks.map (·.key) ++ key :: s.finished := by
      rw [keys, List.map_append, List.append_assoc]
      rfl
    rw [hkeys, List.perm_middle.nodup_iff]
    exact List.nodup_cons.mpr ⟨fun hmem => hnew (isRunning_iff.mpr hmem), h⟩

/-- An attempt takes and frees no key. -/
theorem keys_turned {waiting : Option (Task J)} (hwaiting : ∀ u ∈ waiting, u.key = key) :
    (s.turned key waiting).keys =
      (s.tasks.filter (·.key != key)).map (·.key) ++ key :: s.finished := by
  rw [keys, turned, List.map_append, List.append_assoc]
  cases waiting with
  | none => rfl
  | some u =>
      obtain rfl := hwaiting u rfl
      rfl

theorem nodup_keys_turned (h : s.keys.Nodup) {t : Task J} (ht : t ∈ s.tasks)
    {waiting : Option (Task J)} (hwaiting : ∀ u ∈ waiting, u.key = t.key) :
    (s.turned t.key waiting).keys.Nodup := by
  obtain ⟨htasks, hfinished, happart⟩ := List.nodup_append.mp h
  have hothers : ∀ other ∈ (s.tasks.filter (·.key != t.key)).map (·.key),
      other ≠ t.key ∧ other ∈ s.tasks.map (·.key) := by
    intro other hother
    obtain ⟨u, hu, rfl⟩ := List.mem_map.mp hother
    obtain ⟨hmem, hne⟩ := List.mem_filter.mp hu
    exact ⟨by simpa using hne, List.mem_map_of_mem hmem⟩
  have hfree : t.key ∉ s.finished := fun hmem =>
    happart t.key (List.mem_map_of_mem ht) t.key hmem rfl
  rw [keys_turned hwaiting, List.nodup_append, List.nodup_cons]
  refine ⟨htasks.sublist (List.filter_sublist.map _), ⟨hfree, hfinished⟩,
    fun other hother taken htaken => ?_⟩
  obtain ⟨hne, hmem⟩ := hothers other hother
  rcases List.mem_cons.mp htaken with rfl | htaken
  · exact hne
  · exact happart other hmem taken htaken

theorem nodup_keys_release (h : s.keys.Nodup) (key : String) : (s.release key).keys.Nodup :=
  h.sublist (List.erase_sublist.append_left _)

end Scheduler

/-- The keys that are taken. -/
def Healing.keys : Healing → List String
  | .listed _ => []
  | .retried scheduler => scheduler.keys

/-- Whether this is the turn of a task. -/
def Moment.isTurn : Moment S → Bool
  | .write _ | .attempt _ | .release _ | .refresh _ => true
  | .obey _ | .age _ => false

/-! ## Plain effects -/

namespace Fleet

variable {f : Fleet S} {i : Nat} {s : Subscriber S} {e : Effect S} {effects : List (Effect S)}
  {scheduler : Scheduler HealJob} {waiting : List (Task HealJob)}

def withHealing (f : Fleet S) (healing : Healing) : Fleet S := { f with healing := healing }

def withRefreshes (f : Fleet S) (refreshes : List Refresh) : Fleet S :=
  { f with refreshes := refreshes }

/-- A change that plain effects neither see nor touch may come before or after them. -/
theorem commit_change (change : Fleet S → Fleet S)
    (hmodify : ∀ g edit, (change g).modify i edit = change (g.modify i edit))
    (hcarry : ∀ g e, e.Plain → carry i s (change g) e = change (carry i s g e))
    (h : ∀ e ∈ effects, e.Plain) :
    (change f).commit i s effects = change (f.commit i s effects) := by
  rw [commit, commit, hmodify]
  generalize (f.modify i fun m => { m with subscriber := s }) = g
  induction effects generalizing g with
  | nil => rfl
  | cons e rest ih =>
      rw [List.forall_mem_cons] at h
      rw [List.foldl_cons, List.foldl_cons, hcarry g e h.1, ih h.2]

theorem commit_withHealing (h : ∀ e ∈ effects, e.Plain) (healing : Healing) :
    (f.withHealing healing).commit i s effects = (f.commit i s effects).withHealing healing := by
  refine commit_change (·.withHealing healing) (fun _ _ => rfl) (fun g e he => ?_) h
  cases e with
  | generate block => rfl
  | store block x => rfl
  | _ => cases he

theorem commit_withRefreshes (h : ∀ e ∈ effects, e.Plain) (refreshes : List Refresh) :
    (f.withRefreshes refreshes).commit i s effects =
      (f.commit i s effects).withRefreshes refreshes := by
  refine commit_change (·.withRefreshes refreshes) (fun _ _ => rfl) (fun g e he => ?_) h
  cases e with
  | generate block => rfl
  | store block x => rfl
  | _ => cases he

theorem carry_now (he : e.Plain) : (carry i s f e).now = f.now := by
  cases e with
  | generate block => rfl
  | store block x => rfl
  | _ => cases he

theorem commit_now (h : ∀ e ∈ effects, e.Plain) : (f.commit i s effects).now = f.now := by
  rw [commit]
  change _ = (f.modify i fun m => { m with subscriber := s }).now
  generalize (f.modify i fun m => { m with subscriber := s }) = g
  induction effects generalizing g with
  | nil => rfl
  | cons e rest ih =>
      rw [List.forall_mem_cons] at h
      exact (ih h.2 _).trans (carry_now h.1)

theorem attempt_withHealing (job : HealJob) (healing : Healing) :
    (f.withHealing healing).attempt job =
      ((f.attempt job).1, (f.attempt job).2.withHealing healing) := by
  have hmember : (f.withHealing healing).member? job.member = f.member? job.member := rfl
  rw [attempt, attempt, hmember]
  cases f.member? job.member with
  | none => rfl
  | some m =>
      exact Prod.ext rfl (commit_withHealing (m.subscriber.heal_plain m.source job.block) _)

theorem attempt_now (job : HealJob) : (f.attempt job).2.now = f.now := by
  rw [attempt]
  cases f.member? job.member with
  | none => rfl
  | some m => exact commit_now (m.subscriber.heal_plain m.source job.block)

theorem endRefresh_withRefreshes (r : Refresh) (refreshes : List Refresh) :
    (f.withRefreshes refreshes).endRefresh r = (f.endRefresh r).withRefreshes refreshes := by
  have hmembers : (f.withRefreshes refreshes).members = f.members := rfl
  rw [endRefresh, endRefresh, hmembers]
  cases f.members[r.member]? with
  | none => rfl
  | some m => exact commit_withRefreshes (m.subscriber.absorb_plain (f.published m.subscriber)) _

/-! ## Turns -/

/-- The second fleet is what some turns of tasks make of the first one. -/
def TurnsInto (f g : Fleet S) : Prop :=
  ∃ turns : List (Moment S), (∀ e ∈ turns, e.isTurn = true) ∧ g = f.through turns

namespace TurnsInto

theorem refl (f : Fleet S) : f.TurnsInto f := ⟨[], List.forall_mem_nil _, rfl⟩

theorem trans {g h : Fleet S} (hfg : f.TurnsInto g) (hgh : g.TurnsInto h) : f.TurnsInto h := by
  obtain ⟨front, hfront, rfl⟩ := hfg
  obtain ⟨back, hback, rfl⟩ := hgh
  exact ⟨front ++ back, List.forall_mem_append.mpr ⟨hfront, hback⟩, (through_append ..).symm⟩

theorem of_turn {g : Fleet S} {e : Moment S} (he : e.isTurn = true) (h : f.pass e = g) :
    f.TurnsInto g :=
  ⟨[e], List.forall_mem_singleton.mpr he, h.symm⟩

end TurnsInto

/-! ## Writes and refreshes -/

theorem runQueued_turns (f : Fleet S) : f.TurnsInto f.runQueued := by
  have hrun : ∀ (queued : List CacheWrite) (f : Fleet S),
      queued.foldl (fun g w => (g.write w).2) { f with queued := [] } =
        ({ f with queued := queued } : Fleet S).through (queued.map .write) := by
    intro queued
    induction queued with
    | nil => exact fun f => rfl
    | cons w rest ih =>
        intro f
        rw [List.foldl_cons, List.map_cons, through, pass, runWrite, if_pos List.mem_cons_self,
          List.erase_cons_head, write_eq, write_eq]
        exact ih { f with written := f.written ++ [w], cache := f.cacheWritten w }
  exact ⟨_, List.forall_mem_map.mpr fun w _ => rfl, hrun f.queued f⟩

/-- The refreshes of a kind end in the order in which they wait. -/
theorem foldl_endRefresh_eq_through (due : Refresh → Bool) :
    ∀ (rest kept : List Refresh) (f : Fleet S), (∀ r ∈ kept, due r = false) →
    (rest.filter due).foldl endRefresh
        (f.withRefreshes (kept ++ rest.filter fun r => !due r)) =
      (f.withRefreshes (kept ++ rest)).through ((rest.filter due).map .refresh)
  | [], _, _, _ => rfl
  | r :: rest, kept, f, hkept => by
      cases hr : due r with
      | true =>
          have hnew : r ∉ kept := fun hmem => Bool.false_ne_true ((hkept r hmem).symm.trans hr)
          have hpass : (f.withRefreshes (kept ++ r :: rest)).pass (.refresh r) =
              (f.endRefresh r).withRefreshes (kept ++ rest) := by
            have hwaits : r ∈ (f.withRefreshes (kept ++ r :: rest)).refreshes :=
              List.mem_append_right _ List.mem_cons_self
            rw [pass, runRefresh, if_pos hwaits, ← endRefresh_withRefreshes]
            change ((f.withRefreshes ((kept ++ r :: rest).erase r)).endRefresh r) = _
            rw [List.erase_append_right _ hnew, List.erase_cons_head]
          simp only [List.filter_cons, hr, if_true, Bool.not_true, Bool.false_eq_true, if_false,
            List.foldl_cons, List.map_cons, through, hpass, endRefresh_withRefreshes]
          exact foldl_endRefresh_eq_through due rest kept (f.endRefresh r) hkept
      | false =>
          have hmore : ∀ x ∈ kept ++ [r], due x = false :=
            List.forall_mem_append.mpr ⟨hkept, List.forall_mem_singleton.mpr hr⟩
          have hrest := foldl_endRefresh_eq_through due rest (kept ++ [r]) f hmore
          simp only [List.append_assoc, List.singleton_append] at hrest
          simp only [List.filter_cons, hr, Bool.false_eq_true, if_false, Bool.not_false, if_true]
          exact hrest

theorem runRefreshes_turns (f : Fleet S) : f.TurnsInto f.runRefreshes := by
  have hlater : (f.refreshes.filter fun r => f.now < r.due) =
      f.refreshes.filter fun r => !decide (r.due ≤ f.now) :=
    List.filter_congr fun r _ => by simp only [← decide_not, Nat.not_le]
  rw [runRefreshes, hlater]
  exact ⟨_, List.forall_mem_map.mpr fun r _ => rfl,
    foldl_endRefresh_eq_through _ f.refreshes [] f (by simp)⟩

/-! ## Jobs -/

theorem runJob_withHealing {t : Task HealJob} (ht : (waiting.find? (·.key == t.key)) = some t) :
    (f.withHealing (.retried (scheduler.keeping waiting))).runJob t.key =
      (f.attempt t.job).2.withHealing (.retried ((scheduler.keeping waiting).turned t.key
        (if (f.attempt t.job).1 then none else some (scheduler.retry f.now t)))) := by
  have htask : (Healing.retried (scheduler.keeping waiting)).task? t.key = some t := ht
  rw [runJob_of_some rfl htask, attempt_withHealing]
  rfl

/-- A single attempt is the turn of a job, and one more to give back its key if it is
done. -/
theorem attempted_once (scheduler : Scheduler HealJob) {t : Task HealJob}
    (ht : (waiting.find? (·.key == t.key)) = some t) :
    let r := scheduler.attemptTask f.now (fun t g => Fleet.attempt g t.job) 1 t f
    r.2.now = f.now ∧ (f.withHealing (.retried (scheduler.keeping waiting))).TurnsInto
      (r.2.withHealing (.retried (scheduler.keeping
        (waiting.filter (·.key != t.key) ++ r.1.toList)))) := by
  rw [Scheduler.attemptTask_one]
  refine ⟨attempt_now t.job, ?_⟩
  have hturn : (f.withHealing (.retried (scheduler.keeping waiting))).TurnsInto
      ((f.attempt t.job).2.withHealing (.retried ((scheduler.keeping waiting).turned t.key
        (if (f.attempt t.job).1 then none else some (scheduler.retry f.now t))))) :=
    .of_turn (e := .attempt t.key) rfl (runJob_withHealing ht)
  cases hdone : (f.attempt t.job).1 with
  | false =>
      rw [hdone] at hturn
      exact hturn
  | true =>
      rw [hdone] at hturn
      refine hturn.trans (.of_turn (e := .release t.key) rfl ?_)
      have hfreed : ((scheduler.keeping waiting).turned t.key none).release t.key =
          scheduler.keeping (waiting.filter (·.key != t.key) ++ []) := by
        rw [Scheduler.release, Scheduler.turned, Option.isNone_none, if_pos rfl,
          List.erase_cons_head]
        rfl
      rw [pass, if_pos rfl, withHealing, Healing.release, hfreed]
      rfl

/-! ## Settling -/

/-- No key is taken twice. -/
def Distinct (f : Fleet S) : Prop := f.healing.keys.Nodup

theorem runJobs_turns (h : f.Distinct) : f.TurnsInto f.runJobs := by
  rw [runJobs]
  cases hhealing : f.healing with
  | listed jobs => exact .refl f
  | retried scheduler =>
      rw [Distinct, hhealing] at h
      have hkeys : (scheduler.tasks.map (·.key)).Nodup := (List.nodup_append.mp h).1
      have hself : f.withHealing (.retried (scheduler.keeping scheduler.tasks)) = f :=
        congrArg f.withHealing hhealing.symm
      have hkept : scheduler.Kept f.now (fun t g => Fleet.attempt g t.job) fun waiting g =>
          g.now = f.now ∧ f.TurnsInto (g.withHealing (.retried (scheduler.keeping waiting))) := by
        intro waiting t g hbefore hfind _
        obtain ⟨hnow, hturns⟩ := hbefore
        obtain ⟨hnow', hturns'⟩ := attempted_once (f := g) scheduler hfind
        rw [hnow] at hnow' hturns'
        exact ⟨hnow', hturns.trans hturns'⟩
      exact (hkept.wake hkeys ⟨rfl, by rw [hself]; exact .refl f⟩).2

namespace Distinct

theorem of_healing {g : Fleet S} (h : f.Distinct) (hsame : g.healing = f.healing) : g.Distinct := by
  rw [Distinct, hsame]
  exact h

theorem carry (h : f.Distinct) (e : Effect S) : (Fleet.carry i s f e).Distinct := by
  cases e with
  | heal block =>
      rw [Fleet.carry, Fleet.submit]
      cases hhealing : f.healing with
      | listed jobs => exact List.nodup_nil
      | retried scheduler =>
          rw [Distinct, hhealing] at h
          exact Scheduler.nodup_keys_submit h f.now ⟨i, s.healKey, block⟩
  | _ => exact h.of_healing (carry_healing fun block hblock => by cases hblock)

theorem commit (h : f.Distinct) (effects : List (Effect S)) : (f.commit i s effects).Distinct := by
  have hput : (f.modify i fun m => { m with subscriber := s }).Distinct := h
  rw [Fleet.commit]
  generalize (f.modify i fun m => { m with subscriber := s }) = g at hput
  induction effects generalizing g with
  | nil => exact hput
  | cons e rest ih => exact ih _ (hput.carry e)

theorem happen (h : f.Distinct) (e : Happening S) : (f.happen e).Distinct := by
  cases hacting : f.acting? e with
  | none => exact h.of_healing (healing_of_idle hacting)
  | some acting =>
      obtain ⟨k, a⟩ := acting
      obtain ⟨s, -, hhappen⟩ := happen_of_acting hacting
      rw [hhappen]
      exact h.commit _

theorem pass (h : f.Distinct) (e : Moment S) : (f.pass e).Distinct := by
  cases e with
  | obey command => exact h.happen (.obey command)
  | age span => exact h
  | write w =>
      rw [Fleet.pass, runWrite]
      split
      · exact h.of_healing (healing_write _)
      · exact h
  | refresh r =>
      rw [Fleet.pass, runRefresh]
      split
      · exact happen (f := { f with refreshes := f.refreshes.erase r }) h (.refresh r)
      · exact h
  | release key =>
      rw [Fleet.pass, Distinct]
      cases hhealing : f.healing with
      | listed jobs => exact List.nodup_nil
      | retried scheduler =>
          rw [Distinct, hhealing] at h
          exact Scheduler.nodup_keys_release h key
  | attempt key =>
      rw [Fleet.pass]
      cases ht : f.healing.task? key with
      | none =>
          rw [runJob_of_none ht]
          exact h
      | some t =>
          cases hhealing : f.healing with
          | listed jobs => rw [hhealing] at ht; cases ht
          | retried scheduler =>
              obtain ⟨hlive, rfl⟩ := task?_eq_some ht
              rw [Distinct, hhealing] at h
              rw [hhealing] at hlive
              rw [runJob_of_some hhealing ht]
              exact Scheduler.nodup_keys_turned h hlive (Scheduler.key_of_turn rfl)

theorem through : ∀ (run : List (Moment S)) {f : Fleet S}, f.Distinct → (f.through run).Distinct
  | [], _, h => h
  | e :: rest, _, h => Distinct.through rest (h.pass e)

end Distinct

theorem TurnsInto.distinct {g : Fleet S} (hturns : f.TurnsInto g) (h : f.Distinct) :
    g.Distinct := by
  obtain ⟨turns, -, rfl⟩ := hturns
  exact h.through turns

/-- What runs by itself in a step are turns of tasks. -/
theorem settle_turns (h : f.Distinct) : f.TurnsInto f.settle := by
  have hwritten : f.TurnsInto f.runQueued := runQueued_turns f
  have hattempted : f.TurnsInto f.runQueued.runJobs :=
    hwritten.trans (runJobs_turns (hwritten.distinct h))
  exact (hattempted.trans (runRefreshes_turns _)).trans (runQueued_turns _)

/-- The fleet after commands, each of them followed by all that is due then. -/
def steps (f : Fleet S) : List (Command S) → Fleet S
  | [] => f
  | command :: rest => (f.step command).2.steps rest

/-- Steps are a run: the commands in order, and turns of tasks in between. -/
theorem steps_eq_through : ∀ (commands : List (Command S)) {f : Fleet S}, f.Distinct →
    ∃ run, f.steps commands = f.through run
      ∧ (run.filter fun e => !e.isTurn) = commands.map .obey
  | [], _, _ => ⟨[], rfl, rfl⟩
  | command :: rest, f, h => by
      have hobeyed : (f.obey command).2.Distinct := h.pass (.obey command)
      obtain ⟨turns, hturns, hsettle⟩ := settle_turns hobeyed
      have hsettled : (f.obey command).2.settle.Distinct :=
        (settle_turns hobeyed).distinct hobeyed
      obtain ⟨run, hrun, hcommands⟩ := steps_eq_through rest hsettled
      refine ⟨.obey command :: turns ++ run, ?_, ?_⟩
      · change (f.obey command).2.settle.steps rest = (f.obey command).2.through (turns ++ run)
        rw [through_append, ← hsettle, hrun]
      · have hnone : (turns.filter fun e => !e.isTurn) = [] :=
          List.filter_eq_nil_iff.mpr fun e he => by simp [hturns e he]
        rw [List.cons_append, List.filter_cons, List.filter_append, hnone, List.nil_append,
          hcommands]
        rfl

end Fleet

end ChainReplica
