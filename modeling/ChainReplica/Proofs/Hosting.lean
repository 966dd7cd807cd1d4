import Mathlib.Data.List.Perm.Subperm
import ChainReplica.Proofs.Clients
import ChainReplica.Proofs.Settling

/-!
# The members of a fleet as clients

A fleet is coarser than the clients of its members: its refreshes end in one go,
and its cache answers from what was written. A client stands for a member
(`Fleet.Hosts`) if it has the same subscriber, as many refreshes wait, and its
queued writes are among those of the fleet. What happens to a fleet is then a run
of the client (`Fleet.Hosts.through`), with the same answers to the same commands
(`Fleet.reply_obey`), so that what holds of all runs of clients holds of the
members of a fleet.
-/

namespace ChainReplica

variable {S : Type}

namespace Fleet

variable {f : Fleet S} {i j : Nat} {m : Member S} {c : Client S}

/-- What the world of a fleet answers to a member. -/
def outside (f : Fleet S) (m : Member S) : Outside S where
  source := m.source
  registration := f.registration m.subscriber.id
  answer q := f.lookup (q.key m.subscriber.id)

theorem surroundings_outside (f : Fleet S) (m : Member S) :
    m.subscriber.surroundings (f.outside m) = f.surroundings m := rfl

theorem action?_eq (m : Member S) (command : MemberCommand S) :
    m.action? (f.surroundings m) command = command.action? (f.surroundings m) := by
  cases command <;> rfl

/-- A fleet gives the answers that the subscriber gives. -/
theorem reply_obey (hm : f.member? i = some m) (command : MemberCommand S) :
    (f.obey (.member i command)).1 = m.subscriber.reply (f.surroundings m) command := by
  rw [obey, hm]
  cases command <;> rfl

/-- A client stands for a member. -/
structure Hosts (f : Fleet S) (i : Nat) (c : Client S) : Prop where
  subscriber : f.subscriber? i = some c.subscriber
  refreshes : f.refreshes.countP (·.member == i) = c.refreshes.countP Phase.isWaiting
  queued : c.queued.Subperm f.queued

/-! ## Commits -/

theorem carry_tasks (f : Fleet S) (j : Nat) (s : Subscriber S) (e : Effect S) :
    (carry j s f e).refreshes.countP (·.member == i) = f.refreshes.countP (·.member == i)
        + (if j = i then [e].countP Effect.isRefresh else 0)
      ∧ (carry j s f e).queued = f.queued ++ [e].filterMap s.write? := by
  have hsame : f.refreshes.countP (·.member == i) = f.refreshes.countP (·.member == i)
      + (if j = i then 0 else 0) := by rw [ite_self, Nat.add_zero]
  cases e with
  | register block =>
      rw [carry, register]
      split <;> exact ⟨hsame, (List.append_nil _).symm⟩
  | heal block =>
      rw [carry, submit]
      split <;> exact ⟨hsame, (List.append_nil _).symm⟩
  | refresh =>
      refine ⟨?_, (List.append_nil _).symm⟩
      simp [carry, note, List.countP_append, List.countP_cons, Effect.isRefresh]
  | store block x => exact ⟨hsame, rfl⟩
  | announce block => exact ⟨hsame, rfl⟩
  | generate block => exact ⟨hsame, (List.append_nil _).symm⟩
  | coalesce => exact ⟨hsame, (List.append_nil _).symm⟩

/-- What a commit adds to the tasks of the members. -/
theorem commit_tasks (f : Fleet S) (j : Nat) (s : Subscriber S) (effects : List (Effect S)) :
    (f.commit j s effects).refreshes.countP (·.member == i) =
        f.refreshes.countP (·.member == i)
          + (if j = i then effects.countP Effect.isRefresh else 0)
      ∧ (f.commit j s effects).queued = f.queued ++ effects.filterMap s.write? := by
  rw [commit]
  change _ = (f.modify j fun m => { m with subscriber := s }).refreshes.countP _ + _
    ∧ _ = (f.modify j fun m => { m with subscriber := s }).queued ++ _
  generalize (f.modify j fun m => { m with subscriber := s }) = g
  -- What an effect adds does not depend on the fleet that it is added to.
  induction effects generalizing g with
  | nil => simp
  | cons e rest ih =>
      obtain ⟨hrefreshes, hqueued⟩ := g.carry_tasks (i := i) j s e
      obtain ⟨hrest, hrestQueued⟩ := ih (carry j s g e)
      have hcons : e :: rest = [e] ++ rest := rfl
      rw [List.foldl_cons, hrest, hrestQueued, hrefreshes, hqueued, hcons, List.countP_append,
        List.filterMap_append, List.append_assoc]
      refine ⟨?_, rfl⟩
      split <;> omega

namespace Hosts

theorem commit_self (h : f.Hosts i c) (s : Subscriber S) (effects : List (Effect S)) :
    (f.commit i s effects).Hosts i (c.commit s effects) := by
  obtain ⟨hrefreshes, hqueued⟩ := f.commit_tasks (i := i) i s effects
  refine ⟨?_, ?_, ?_⟩
  · rw [subscriber?_commit, h.subscriber, Option.map_some, if_pos rfl]
    rfl
  · rw [hrefreshes, h.refreshes, if_pos rfl, Client.countP_commit]
  · rw [hqueued]
    exact h.queued.append (List.Subperm.refl _)

theorem commit_other (h : f.Hosts i c) (hji : j ≠ i) (s : Subscriber S)
    (effects : List (Effect S)) : (f.commit j s effects).Hosts i c := by
  obtain ⟨hrefreshes, hqueued⟩ := f.commit_tasks (i := i) j s effects
  refine ⟨?_, ?_, ?_⟩
  · rw [subscriber?_commit, h.subscriber, Option.map_some, if_neg hji]
  · rw [hrefreshes, h.refreshes, if_neg hji, Nat.add_zero]
  · rw [hqueued]
    exact h.queued.trans (List.sublist_append_left _ _).subperm

theorem of_frame {g : Fleet S} (h : f.Hosts i c) (hsubscriber : g.subscriber? i = f.subscriber? i)
    (hrefreshes : g.refreshes = f.refreshes) (hqueued : g.queued = f.queued) : g.Hosts i c :=
  ⟨hsubscriber ▸ h.subscriber, hrefreshes ▸ h.refreshes, hqueued ▸ h.queued⟩

end Hosts

/-! ## Commands and attempts -/

theorem tasks_of_idle {command : Command S} (h : f.acting? (.obey command) = none) :
    (f.obey command).2.refreshes = f.refreshes ∧ (f.obey command).2.queued = f.queued := by
  cases command with
  | member j command => rw [member_of_idle h]; exact ⟨rfl, rfl⟩
  | runJob index => rw [runJob_of_idle h]; exact ⟨rfl, rfl⟩
  | publishLatest group block =>
      rw [obey, write_eq]
      exact ⟨rfl, rfl⟩
  | _ => exact ⟨rfl, rfl⟩

/-- When a member acts on a command or in an attempt, its client does the same. -/
theorem exists_event {e : Happening S} {a : Action S} (h : f.acting? e = some (i, a))
    (hrefresh : ∀ r, e ≠ .refresh r) (hc : f.subscriber? i = some c.subscriber) :
    ∃ event, c.pass event = c.commit (c.subscriber.act a) (c.subscriber.asked a) := by
  have hattempt : ∀ {job : HealJob}, f.attempting? job = some (i, a) →
      ∃ event, c.pass event = c.commit (c.subscriber.act a) (c.subscriber.asked a) := by
    intro job hjob
    obtain ⟨m, -, hacts⟩ := Option.map_eq_some_iff.mp hjob
    cases hacts
    exact ⟨.attempt m.source job.block, rfl⟩
  cases e with
  | write => cases h
  | age span => cases h
  | attempt job => exact hattempt h
  | refresh r => exact absurd rfl (hrefresh r)
  | obey command =>
      cases command with
      | member k command =>
          obtain ⟨m, hm, hacts⟩ := Option.bind_eq_some_iff.mp h
          obtain ⟨b, haction, hpair⟩ := Option.map_eq_some_iff.mp hacts
          cases hpair
          have hsub := subscriber?_of_members (members_of_member? hm)
          have hsame : c.subscriber = m.subscriber := Option.some.inj (hc.symm.trans hsub)
          have hasks : command.action? (c.subscriber.surroundings (f.outside m)) = some a := by
            rw [hsame, surroundings_outside, ← action?_eq, haction]
          exact ⟨.obey command (f.outside m), by rw [Client.pass, Client.next, hasks]; rfl⟩
      | runJob index =>
          obtain ⟨job, -, hacts⟩ := Option.bind_eq_some_iff.mp h
          exact hattempt hacts
      | _ => cases h

theorem Hosts.act (h : f.Hosts i c) {e : Happening S} (hrefresh : ∀ r, e ≠ .refresh r)
    {a : Action S} (hacting : f.acting? e = some (j, a)) :
    ∃ events, (f.happen e).Hosts i (c.after events) := by
  obtain ⟨s, hs, hhappen⟩ := happen_of_acting hacting
  rw [hhappen]
  by_cases hji : j = i
  · subst hji
    obtain rfl : c.subscriber = s := Option.some.inj (h.subscriber.symm.trans hs)
    obtain ⟨event, hpass⟩ := exists_event hacting hrefresh h.subscriber
    exact ⟨[event], by rw [Client.after, hpass]; exact h.commit_self _ _⟩
  · exact ⟨[], h.commit_other hji _ _⟩

theorem Hosts.obey (h : f.Hosts i c) (command : Command S) :
    ∃ events, (f.obey command).2.Hosts i (c.after events) := by
  cases hacting : f.acting? (.obey command) with
  | none =>
      obtain ⟨hrefreshes, hqueued⟩ := tasks_of_idle hacting
      exact ⟨[], h.of_frame (subscriber?_of_idle hacting i) hrefreshes hqueued⟩
  | some acting => exact h.act (e := .obey command) nofun hacting

theorem Hosts.attempt (h : f.Hosts i c) (job : HealJob) :
    ∃ events, (f.attempt job).2.Hosts i (c.after events) := by
  cases hacting : f.attempting? job with
  | none =>
      rw [attempt_of_none hacting]
      exact ⟨[], h⟩
  | some acting => exact h.act (e := .attempt job) nofun hacting

/-! ## Turns of tasks -/

theorem countP_erase_refresh {r : Refresh} (hr : r ∈ f.refreshes) :
    f.refreshes.countP (·.member == i) =
      (f.refreshes.erase r).countP (·.member == i) + if r.member = i then 1 else 0 := by
  rw [(List.perm_cons_erase hr).countP_eq, List.countP_cons]
  simp only [beq_iff_eq]

namespace Hosts

theorem erase_refresh (h : f.Hosts i c) {r : Refresh} (hr : r.member ≠ i) :
    (f.withRefreshes (f.refreshes.erase r)).Hosts i c := by
  refine ⟨h.subscriber, ?_, h.queued⟩
  by_cases hmem : r ∈ f.refreshes
  · have hcount := countP_erase_refresh (i := i) hmem
    rw [if_neg hr, Nat.add_zero] at hcount
    exact hcount.symm.trans h.refreshes
  · change (f.refreshes.erase r).countP _ = _
    rw [List.erase_of_not_mem hmem, h.refreshes]

/-- A refresh that ends without its client is one that waits there no longer. -/
theorem end_waiting (h : f.Hosts i c) {r : Refresh} (hmem : r ∈ f.refreshes) (hr : r.member = i) :
    ∃ n, c.phase? n = some .waiting
      ∧ (f.withRefreshes (f.refreshes.erase r)).Hosts i
          { c with refreshes := c.refreshes.set n .over } := by
  have hcount := countP_erase_refresh (i := i) hmem
  rw [if_pos hr, h.refreshes] at hcount
  have hpos : 0 < c.refreshes.countP Phase.isWaiting := by omega
  obtain ⟨phase, hphase, hwaiting⟩ := List.countP_pos_iff.mp hpos
  -- Refreshes have no names, so any that waits will do.
  obtain ⟨n, hn⟩ := List.mem_iff_getElem?.mp hphase
  obtain rfl := Phase.eq_waiting hwaiting
  refine ⟨n, hn, h.subscriber, ?_, h.queued⟩
  have hset := c.countP_set hn .over
  change (f.refreshes.erase r).countP _ = (c.refreshes.set n .over).countP _
  simp only [Phase.isWaiting, Bool.toNat_true, Bool.toNat_false] at hset
  omega

theorem runRefresh (h : f.Hosts i c) (r : Refresh) :
    ∃ events, (f.runRefresh r).Hosts i (c.after events) := by
  rw [Fleet.runRefresh]
  split
  · rename_i hmem
    change ∃ events, ((f.withRefreshes (f.refreshes.erase r)).endRefresh r).Hosts i _
    rw [endRefresh]
    by_cases hr : r.member = i
    · obtain ⟨n, hn, hended⟩ := h.end_waiting hmem hr
      obtain ⟨m, hm, hsub⟩ := Option.map_eq_some_iff.mp hended.subscriber
      change m.subscriber = c.subscriber at hsub
      refine ⟨[.wake n, .read n (f.lookup c.subscriber.id), .take n], ?_⟩
      rw [hr, hm, Client.after_refresh hn, ← hsub]
      exact hended.commit_self _ _
    · refine ⟨[], ?_⟩
      cases (f.withRefreshes (f.refreshes.erase r)).members[r.member]? with
      | none => exact h.erase_refresh hr
      | some m => exact (h.erase_refresh hr).commit_other hr _ _
  · exact ⟨[], h⟩

theorem runWrite (h : f.Hosts i c) (w : CacheWrite) :
    ∃ events, (f.runWrite w).Hosts i (c.after events) := by
  rw [Fleet.runWrite]
  split
  · refine ⟨[.write (c.queued.idxOf w) (.ok ())], ?_⟩
    rw [write_eq, Client.after, Client.after, Client.pass_write, List.eraseIdx_idxOf_eq_erase]
    exact ⟨h.subscriber, h.refreshes, h.queued.erase w⟩
  · exact ⟨[], h⟩

theorem runJob (h : f.Hosts i c) (key : String) :
    ∃ events, (f.runJob key).Hosts i (c.after events) := by
  cases hs : f.healing with
  | listed jobs =>
      rw [Fleet.runJob, hs]
      exact ⟨[], h⟩
  | retried scheduler =>
      cases ht : f.healing.task? key with
      | none =>
          rw [runJob_of_none ht]
          exact ⟨[], h⟩
      | some t =>
          rw [runJob_of_some hs ht]
          obtain ⟨events, hevents⟩ := h.attempt t.job
          exact ⟨events, hevents.of_frame rfl rfl rfl⟩

/-! ## Runs -/

theorem pass (h : f.Hosts i c) (e : Moment S) :
    ∃ events, (f.pass e).Hosts i (c.after events) := by
  cases e with
  | obey command => exact h.obey command
  | write w => exact h.runWrite w
  | attempt key => exact h.runJob key
  | release key => exact ⟨[], h.of_frame rfl rfl rfl⟩
  | refresh r => exact h.runRefresh r
  | age span => exact ⟨[], h.of_frame rfl rfl rfl⟩

/-- What happens to a fleet is a run of the client of each member. -/
theorem through : ∀ (run : List (Moment S)) {f : Fleet S} {c : Client S}, f.Hosts i c →
    ∃ events, (f.through run).Hosts i (c.after events)
  | [], _, _, h => ⟨[], h⟩
  | e :: rest, f, c, h => by
      obtain ⟨events, hpass⟩ := h.pass e
      obtain ⟨later, hrest⟩ := through rest hpass
      exact ⟨events ++ later, by rw [Client.after_append]; exact hrest⟩

end Hosts

/-- At first a member is a client that has started nothing. -/
theorem hosts_new {members : List (Member S)} (hm : members[i]? = some m) (healing : Healing)
    (window : Nat) : (Fleet.new members healing window).Hosts i (.new m.subscriber) :=
  ⟨by rw [subscriber?, new, hm]; rfl, rfl, List.Subperm.refl _⟩

end Fleet

end ChainReplica
