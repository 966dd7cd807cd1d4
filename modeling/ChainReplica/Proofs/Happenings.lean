import ChainReplica.Fleet.Command
import ChainReplica.Proofs.Commits
import ChainReplica.Proofs.Preservation
import ChainReplica.Proofs.Reports

/-!
# Runs of a fleet

Writes to the cache, attempts of jobs and refreshes run by themselves, at a time
of their own. A `Happening` is one of these, or a command, or that time passes,
and a run of a fleet is any list of happenings: queued writes run one by one, the
oldest first, and anything may happen between two of them.

A happening makes at most one member act (`Fleet.acting?`). Then it is the commit
of that action (`Fleet.happen_of_acting`); otherwise all subscribers stay as they
are (`Fleet.subscriber?_of_idle`). What a member has become after a run is
therefore what its actions make of it, one after the other
(`Fleet.subscriber?_after`).
-/

namespace ChainReplica

variable {S : Type}

/-- One thing that happens to a fleet. -/
inductive Happening (S : Type) where
  | obey (command : Command S)
  /-- The oldest queued write runs. -/
  | write
  /-- A job is attempted, whoever keeps it. -/
  | attempt (job : HealJob)
  /-- A refresh ends. -/
  | refresh (r : Refresh)
  /-- Time passes on the clock that cached texts expire by. -/
  | age (span : Nat)

namespace Fleet

/-- Runs the oldest queued write. -/
def runOldest (f : Fleet S) : Fleet S :=
  match f.queued with
  | [] => f
  | w :: rest => ({ f with queued := rest }.write w).2

def happen (f : Fleet S) : Happening S → Fleet S
  | .obey command => (f.obey command).2
  | .write => f.runOldest
  | .attempt job => (f.attempt job).2
  | .refresh r => f.endRefresh r
  | .age span => { f with calendar := f.calendar + span }

def after (f : Fleet S) : List (Happening S) → Fleet S
  | [] => f
  | e :: rest => (f.happen e).after rest

theorem after_append : ∀ (f : Fleet S) (front back : List (Happening S)),
    f.after (front ++ back) = (f.after front).after back
  | _, [], _ => rfl
  | f, e :: rest, back => after_append (f.happen e) rest back

/-- The subscriber at an index, given up or not. -/
def subscriber? (f : Fleet S) (i : Nat) : Option (Subscriber S) :=
  f.members[i]?.map (·.subscriber)

end Fleet

/-! ## Who acts -/

def Member.action? (m : Member S) (world : Surroundings S) : MemberCommand S → Option (Action S)
  | .establish block start => some (.establish world block start)
  | .update logs headers => some (.update ⟨m.source, logs, headers⟩)
  | .rollback block => some (.rollback block)
  | .restart block => some (.restart block)
  | .invalidate => some .invalidate
  | .inactivate => some .inactivate
  | .put snapshot block => some (.put snapshot block)
  | .read _ | .checkpoint _ | .identify => none

def Healing.job? : Healing → Nat → Option HealJob
  | .listed jobs, index => jobs[index]?
  | .retried _, _ => none

namespace Fleet

/-- The member that a job makes act, and how. -/
def attempting? (f : Fleet S) (job : HealJob) : Option (Nat × Action S) :=
  (f.member? job.member).map fun m => (job.member, .heal m.source job.block)

/-- The member that acts in a happening, and how. -/
def acting? (f : Fleet S) : Happening S → Option (Nat × Action S)
  | .obey (.member i command) =>
    (f.member? i).bind fun m => (m.action? (f.surroundings m) command).map (i, ·)
  | .obey (.runJob index) => (f.healing.job? index).bind f.attempting?
  | .attempt job => f.attempting? job
  | .refresh r =>
    f.members[r.member]?.map fun m => (r.member, .absorb (f.published m.subscriber))
  | _ => none

/-- What a member does in a run, in order. -/
def actions (f : Fleet S) (i : Nat) : List (Happening S) → List (Action S)
  | [] => []
  | e :: rest => (match f.acting? e with
    | some (j, a) => if j = i then [a] else []
    | none => []) ++ (f.happen e).actions i rest

variable {f : Fleet S} {i j : Nat} {m : Member S} {s : Subscriber S} {a : Action S}

/-! ## Acting is committing -/

theorem members_of_member? (hm : f.member? i = some m) : f.members[i]? = some m :=
  (Option.filter_eq_some_iff.mp hm).1

theorem subscriber?_of_members (hm : f.members[i]? = some m) :
    f.subscriber? i = some m.subscriber := by
  rw [subscriber?, hm, Option.map_some]

theorem obeyMember_of_action {command : MemberCommand S}
    (h : m.action? (f.surroundings m) command = some a) :
    (f.obeyMember i m command).2 = f.commit i (m.subscriber.act a) (m.subscriber.asked a) := by
  cases command with
  | read least => cases h
  | checkpoint block => cases h
  | identify => cases h
  | _ => cases h; rfl

theorem obeyMember_of_none {command : MemberCommand S}
    (h : m.action? (f.surroundings m) command = none) : (f.obeyMember i m command).2 = f := by
  cases command with
  | read least => rfl
  | checkpoint block => rfl
  | identify => rfl
  | _ => cases h

theorem attempt_of_attempting {job : HealJob} (h : f.attempting? job = some (i, a)) :
    ∃ m, f.members[i]? = some m
      ∧ (f.attempt job).2 = f.commit i (m.subscriber.act a) (m.subscriber.asked a) := by
  obtain ⟨m, hm, hacts⟩ := Option.map_eq_some_iff.mp h
  cases hacts
  refine ⟨m, members_of_member? hm, ?_⟩
  rw [attempt, hm]
  rfl

theorem attempt_of_none {job : HealJob} (h : f.attempting? job = none) :
    (f.attempt job).2 = f := by
  rw [attempt, Option.map_eq_none_iff.mp h]

theorem runListed_eq (index : Nat) :
    (f.runListed index).2 = match f.healing.job? index with
      | none => f
      | some job => (f.attempt job).2 := by
  rw [runListed, Healing.job?.eq_def]
  cases f.healing with
  | retried scheduler => rfl
  | listed jobs =>
      dsimp only
      cases jobs[index]? <;> rfl

/-- A happening in which a member acts is the commit of its action. -/
theorem happen_of_acting {e : Happening S} (h : f.acting? e = some (i, a)) :
    ∃ s, f.subscriber? i = some s ∧ f.happen e = f.commit i (s.act a) (s.asked a) := by
  have hjob : ∀ {job : HealJob}, f.attempting? job = some (i, a) →
      ∃ s, f.subscriber? i = some s
        ∧ (f.attempt job).2 = f.commit i (s.act a) (s.asked a) := by
    intro job hjob
    obtain ⟨m, hm, hattempt⟩ := attempt_of_attempting hjob
    exact ⟨m.subscriber, subscriber?_of_members hm, hattempt⟩
  cases e with
  | write => cases h
  | age span => cases h
  | attempt job => exact hjob h
  | refresh r =>
      obtain ⟨m, hm, hacts⟩ := Option.map_eq_some_iff.mp h
      cases hacts
      refine ⟨m.subscriber, subscriber?_of_members hm, ?_⟩
      rw [happen, endRefresh, hm]
      rfl
  | obey command =>
      cases command with
      | member k command =>
          obtain ⟨m, hm, hacts⟩ := Option.bind_eq_some_iff.mp h
          obtain ⟨b, haction, hpair⟩ := Option.map_eq_some_iff.mp hacts
          cases hpair
          refine ⟨m.subscriber, subscriber?_of_members (members_of_member? hm), ?_⟩
          rw [← obeyMember_of_action haction, happen, obey, hm]
      | runJob index =>
          obtain ⟨job, hlisted, hacts⟩ := Option.bind_eq_some_iff.mp h
          obtain ⟨s, hs, hattempt⟩ := hjob hacts
          refine ⟨s, hs, ?_⟩
          rw [← hattempt, happen, obey, runListed_eq, hlisted]
      | _ => cases h

/-! ## What becomes of the subscribers -/

theorem subscriber?_congr {g : Fleet S} (h : g.members = f.members) (i : Nat) :
    g.subscriber? i = f.subscriber? i := by
  rw [subscriber?, h, subscriber?]

theorem subscriber?_modify (change : Member S → Member S)
    (h : ∀ m, (change m).subscriber = m.subscriber) (i j : Nat) :
    (f.modify j change).subscriber? i = f.subscriber? i := by
  rw [subscriber?, modify, subscriber?]
  by_cases hij : j = i
  · subst hij
    rw [List.getElem?_modify_eq]
    cases f.members[j]? with
    | none => rfl
    | some m => exact congrArg some (h m)
  · rw [List.getElem?_modify_ne _ _ hij]

theorem write_frame (w : CacheWrite) :
    (f.write w).2.members = f.members ∧ (f.write w).2.queued = f.queued := by
  cases w with
  | set key value ttl =>
      rw [write]
      split <;> exact ⟨rfl, rfl⟩
  | publish topic payload =>
      rw [write]
      split <;> exact ⟨rfl, rfl⟩

theorem member_of_idle {command : MemberCommand S}
    (h : f.acting? (.obey (.member j command)) = none) :
    (f.obey (.member j command)).2 = f := by
  rw [obey]
  cases hm : f.member? j with
  | none => rfl
  | some m =>
      have hnone : m.action? (f.surroundings m) command = none := by simpa [acting?, hm] using h
      exact obeyMember_of_none hnone

theorem runJob_of_idle {index : Nat} (h : f.acting? (.obey (.runJob index)) = none) :
    (f.obey (.runJob index)).2 = f := by
  rw [obey, runListed_eq]
  cases hlisted : f.healing.job? index with
  | none => rfl
  | some job =>
      have hnone : f.attempting? job = none := by simpa [acting?, hlisted] using h
      exact attempt_of_none hnone

/-- Without an action all subscribers stay as they are. -/
theorem subscriber?_of_idle {e : Happening S} (h : f.acting? e = none) (i : Nat) :
    (f.happen e).subscriber? i = f.subscriber? i := by
  cases e with
  | age span => rfl
  | write =>
      rw [happen, runOldest]
      split
      · rfl
      · exact subscriber?_congr (write_frame _).1 i
  | attempt job => rw [happen, attempt_of_none h]
  | refresh r => rw [happen, endRefresh, Option.map_eq_none_iff.mp h]
  | obey command =>
      cases command with
      | member j command => rw [happen, member_of_idle h]
      | runJob index => rw [happen, runJob_of_idle h]
      | release j =>
          exact subscriber?_modify (fun m => { m with released := true }) (fun _ => rfl) i j
      | publishLatest group block =>
          exact subscriber?_congr (write_frame (.set (Store.latestKey group) _ _)).1 i
      | _ => rfl

theorem subscriber?_carry (e : Effect S) (i : Nat) :
    (carry j s f e).subscriber? i = f.subscriber? i := by
  rcases carry_members (f := f) (j := j) (s := s) e with hsame | hcounted
  · exact subscriber?_congr hsame i
  · rw [subscriber?, hcounted]
    exact subscriber?_modify (fun m => { m with calls := m.calls + 1 }) (fun _ => rfl) i j

theorem subscriber?_foldl_carry : ∀ (effects : List (Effect S)) (f : Fleet S) (i : Nat),
    (effects.foldl (carry j s) f).subscriber? i = f.subscriber? i
  | [], _, _ => rfl
  | e :: rest, f, i => by
      rw [List.foldl_cons, subscriber?_foldl_carry rest, subscriber?_carry]

theorem subscriber?_commit (s : Subscriber S) (effects : List (Effect S)) (i : Nat) :
    (f.commit j s effects).subscriber? i =
      (f.subscriber? i).map fun t => if j = i then s else t := by
  rw [commit, subscriber?_foldl_carry, subscriber?, modify, subscriber?, Option.map_map]
  by_cases hji : j = i
  · subst hji
    rw [List.getElem?_modify_eq]
    cases f.members[j]? with
    | none => rfl
    | some m => simp
  · rw [List.getElem?_modify_ne _ _ hji]
    exact congrArg (Option.map · _) (funext fun m => (if_neg hji).symm)

/-- What becomes of a member in a happening: its action, or nothing. -/
theorem subscriber?_happen (e : Happening S) (i : Nat) :
    (f.happen e).subscriber? i = (f.subscriber? i).map fun s => match f.acting? e with
      | some (j, a) => if j = i then s.act a else s
      | none => s := by
  cases hacting : f.acting? e with
  | none => exact (subscriber?_of_idle hacting i).trans Option.map_id'.symm
  | some acting =>
      obtain ⟨j, a⟩ := acting
      obtain ⟨s, hs, hhappen⟩ := happen_of_acting hacting
      rw [hhappen, subscriber?_commit]
      by_cases hji : j = i
      · subst hji
        rw [hs]
        rfl
      · simp only [if_neg hji]

/-- A member after a run is what its actions make of it. -/
theorem subscriber?_after (i : Nat) : ∀ (run : List (Happening S)) (f : Fleet S),
    (f.after run).subscriber? i = (f.subscriber? i).map (·.perform (f.actions i run))
  | [], _ => Option.map_id'.symm
  | e :: rest, f => by
      rw [after, subscriber?_after i rest, subscriber?_happen, Option.map_map, actions]
      cases f.acting? e with
      | none => rfl
      | some acting =>
          obtain ⟨j, a⟩ := acting
          by_cases hji : j = i
          · simp only [if_pos hji]
            rfl
          · simp only [if_neg hji]
            rfl

end Fleet

end ChainReplica
