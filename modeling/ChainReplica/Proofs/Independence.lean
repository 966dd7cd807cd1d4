import ChainReplica.Proofs.Isolation
import ChainReplica.Venue.Counter

/-!
# Which subscriptions are independent

Subscribers share a cache, a scheduler and more, but the cache keeps group and name
apart, and the others treat everybody alike. Jobs go by the text of a subscription
instead, and different subscriptions may have the same text: group and name are
any strings, and a slash may be in both. So subscriptions are independent exactly
if their texts differ (`Subscription.independent_iff`). With the same text, the
live job of one subscriber keeps another one from getting its own
(`Subscription.jobs_collide`).
-/

namespace ChainReplica

/-- The indices of the members whose subscription has a text. -/
def membersUnder {S : Type} (members : List (Member S)) (text : String) (k : Nat) : Bool :=
  members[k]?.any fun m => m.subscriber.id.text == text

theorem Fleet.splits_new {S : Type} (members : List (Member S))
    (initialDelay maxDelay window : Nat) (text : String) :
    (Fleet.new members (.retried (.new initialDelay maxDelay)) window).Splits text
      (membersUnder members text) := by
  refine ⟨fun k s hs => ?_, ⟨_, rfl⟩, fun t ht => by cases ht⟩
  obtain ⟨m, hm, rfl⟩ := Option.map_eq_some_iff.mp hs
  change members[k]? = some m at hm
  simp only [membersUnder, hm, Option.any_some, beq_iff_eq]

namespace Subscription

variable {a b : Subscription}

/-- Whatever happens to subscribers that share a world, the operations of one that
is known as `b` make no difference to one that is known as `a`: neither to what it
is, nor to the jobs it has, nor to how often these were attempted. -/
def Independent (a b : Subscription) : Prop :=
  ∀ (S : Type) (members : List (Member S)) (i j initialDelay maxDelay window : Nat)
    (run : List (Moment S)),
    members[i]?.map (·.subscriber.id) = some a → members[j]?.map (·.subscriber.id) = some b →
    let f := Fleet.new members (.retried (.new initialDelay maxDelay)) window
    let others := run.filter fun e => !e.by j
    (f.through run).members[i]? = (f.through others).members[i]?
      ∧ (f.through run).jobsOf i = (f.through others).jobsOf i
      ∧ f.attempts i run = f.attempts i others

theorem independent_of_text_ne (h : a.text ≠ b.text) : Independent a b := by
  intro S members i j initialDelay maxDelay window run ha hb f others
  obtain ⟨m, hm, rfl⟩ := Option.map_eq_some_iff.mp ha
  obtain ⟨m', hm', rfl⟩ := Option.map_eq_some_iff.mp hb
  have hi : membersUnder members m.subscriber.id.text i = true := by simp [membersUnder, hm]
  have hj : membersUnder members m.subscriber.id.text j = false := by
    simpa [membersUnder, hm'] using h.symm
  have hf := Fleet.splits_new members initialDelay maxDelay window m.subscriber.id.text
  obtain ⟨hsame, hattempts⟩ := Fleet.SameFor.through hj hi run (.refl f) hf hf
  refine ⟨hsame.members i hi, ?_, hattempts⟩
  rw [(hf.through run).jobsOf_eq hi, (hf.through others).jobsOf_eq hi, hsame.jobs]

/-! ## One text for two -/

/-- A counter whose first snapshot from scratch fails. -/
def faltering (id : Subscription) : Member Counter :=
  ⟨.new id (Counter.venue 7) Settings.default, Counter.supply 0 1, 0, false⟩

/-- A fleet of two such counters. -/
def twoFaltering (a b : Subscription) : Fleet Counter :=
  Fleet.new [faltering a, faltering b] (.retried (.new 1000 60000)) 1000

/-- The second one, and then the first one, is given block 10. -/
def givenTen : List (Moment Counter) :=
  let headers : Headers := .ofList [⟨10, 10, 9, 120⟩]
  [.obey (.member 1 (.update [] headers)), .obey (.member 0 (.update [] headers))]

/-- Both ask for a job, but there is only one job for a text. -/
theorem jobsOf_givenTen (h : a.text = b.text) :
    ((twoFaltering a b).through givenTen).jobsOf 0 = [] := by
  have hasked : ((twoFaltering a b).through givenTen).healing =
      ((Healing.retried (.new 1000 60000)).submit 0 ⟨1, jobKey b.text, 10⟩).submit 0
        ⟨0, jobKey a.text, 10⟩ := rfl
  rw [Fleet.jobsOf, hasked, h]
  simp [Healing.submit, Scheduler.submit, Scheduler.isRunning, Scheduler.keys, Scheduler.new,
    Healing.tasks]

/-- Subscriptions are independent if and only if their texts differ. -/
theorem independent_iff (a b : Subscription) : Independent a b ↔ a.text ≠ b.text := by
  refine ⟨fun h htext => ?_, independent_of_text_ne⟩
  have hjobs := (h Counter [faltering a, faltering b] 0 1 1000 60000 1000 givenTen rfl rfl).2.1
  have halone : ((twoFaltering a b).through (givenTen.filter fun e => !e.by 1)).jobsOf 0 =
      [⟨jobKey a.text, ⟨0, jobKey a.text, 10⟩, 0, 0, 1000⟩] := rfl
  have hnone : [] = [_] := (jobsOf_givenTen htext).symm.trans (hjobs.trans halone)
  cases hnone

/-- Two subscriptions with the text `a/b/c`. While the job of the second one is
alive, the first one gets none, and is left without a snapshot that it would have
had by itself. -/
theorem jobs_collide :
    let a : Subscription := ⟨"a", "b/c"⟩
    let b : Subscription := ⟨"a/b", "c"⟩
    let run := givenTen ++ [.attempt (jobKey "a/b/c")]
    let held (f : Fleet Counter) := f.members[0]?.map (·.subscriber.replica.current)
    a ≠ b ∧ held ((twoFaltering a b).through run) = some none
      ∧ held ((twoFaltering a b).through (run.filter fun e => !e.by 1)) = some (some ⟨0⟩)
      ∧ ¬Independent a b := by
  intro a b run held
  have hboth : held ((twoFaltering a b).through run) = some none := by decide +kernel
  have halone : held ((twoFaltering a b).through (run.filter fun e => !e.by 1)) =
      some (some ⟨0⟩) := by decide +kernel
  refine ⟨by decide, hboth, halone, fun h => ?_⟩
  have hsame : ((twoFaltering a b).through run).members[0]? =
      ((twoFaltering a b).through (run.filter fun e => !e.by 1)).members[0]? :=
    (h Counter [faltering a, faltering b] 0 1 1000 60000 1000 run rfl rfl).1
  simp only [held, hsame] at hboth halone
  rw [hboth] at halone
  cases halone

end Subscription

end ChainReplica
