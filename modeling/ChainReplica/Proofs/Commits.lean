import ChainReplica.Fleet.Basic
import ChainReplica.Proofs.Requests

/-!
# What a commit changes

A commit puts the next state of one member in place and carries out the effects
it asked for. The member has its new state (`Fleet.member?_commit_self`), the
others stay as they are (`Fleet.member?_commit_of_ne`), and jobs come to the
scheduler only as they were asked for (`Fleet.commit_healing`,
`Fleet.commit_heal_healing`).
-/

namespace ChainReplica

variable {S : Type}

/-! ## What one effect changes -/

namespace Fleet

variable {f : Fleet S} {i j : Nat} {m : Member S} {s : Subscriber S}

theorem member?_modify_self (hm : f.member? i = some m) {change : Member S → Member S}
    (hreleased : (change m).released = m.released) :
    (f.modify i change).member? i = some (change m) := by
  obtain ⟨hget, hthere⟩ := Option.filter_eq_some_iff.mp hm
  rw [member?, modify, List.getElem?_modify_eq, hget]
  exact Option.filter_eq_some_iff.mpr ⟨rfl, by rw [hreleased]; exact hthere⟩

theorem member?_modify_of_ne (h : j ≠ i) (change : Member S → Member S) :
    (f.modify j change).member? i = f.member? i := by
  simp only [member?, modify, List.getElem?_modify_ne _ _ h]

theorem register_frame (block : Nat) :
    (f.register s block).members = f.members ∧ (f.register s block).healing = f.healing := by
  rw [register]
  split <;> exact ⟨rfl, rfl⟩

theorem submit_members (job : HealJob) : (f.submit job).members = f.members := by
  rw [submit]
  split <;> rfl

/-- An effect leaves the members as they are, but for the count of calls. -/
theorem carry_members (e : Effect S) :
    (carry j s f e).members = f.members
      ∨ (carry j s f e).members = f.members.modify j fun m => { m with calls := m.calls + 1 } := by
  cases e with
  | generate block => exact Or.inr rfl
  | register block => exact Or.inl (register_frame block).1
  | heal block => exact Or.inl (submit_members _)
  | store block x => exact Or.inl rfl
  | announce block => exact Or.inl rfl
  | refresh => exact Or.inl rfl
  | coalesce => exact Or.inl rfl

theorem member?_carry_self (hm : f.member? i = some m) (e : Effect S) :
    ∃ calls, (carry i s f e).member? i = some { m with calls := calls } := by
  rcases carry_members (f := f) (j := i) (s := s) e with hsame | hcounted
  · exact ⟨m.calls, by rw [member?, hsame]; exact hm⟩
  · refine ⟨m.calls + 1, ?_⟩
    rw [member?, hcounted]
    exact member?_modify_self hm rfl

theorem member?_carry_of_ne (h : j ≠ i) (e : Effect S) :
    (carry j s f e).member? i = f.member? i := by
  rcases carry_members (f := f) (j := j) (s := s) e with hsame | hcounted
  · rw [member?, hsame, member?]
  · rw [member?, hcounted]
    exact member?_modify_of_ne h _

theorem carry_healing {e : Effect S} (h : ∀ block, Effect.heal block ≠ e) :
    (carry j s f e).healing = f.healing := by
  cases e with
  | register block => exact (register_frame block).2
  | heal block => exact absurd rfl (h block)
  | _ => rfl

/-! ## What a commit changes -/

theorem member?_commit_self (hm : f.member? i = some m) (effects : List (Effect S)) :
    ∃ calls, (f.commit i s effects).member? i
      = some { m with subscriber := s, calls := calls } := by
  have hput : (f.modify i fun m => { m with subscriber := s }).member? i
      = some { m with subscriber := s, calls := m.calls } := member?_modify_self hm rfl
  rw [commit]
  generalize (f.modify i fun m => { m with subscriber := s }) = g, m.calls = calls at hput
  induction effects generalizing g calls with
  | nil => exact ⟨calls, hput⟩
  | cons e rest ih =>
      obtain ⟨more, hcarried⟩ := member?_carry_self (s := s) hput e
      exact ih _ _ hcarried

theorem member?_commit_of_ne (h : j ≠ i) (effects : List (Effect S)) :
    (f.commit j s effects).member? i = f.member? i := by
  have hput := member?_modify_of_ne (f := f) h fun m => { m with subscriber := s }
  rw [commit]
  generalize (f.modify j fun m => { m with subscriber := s }) = g at hput
  induction effects generalizing g with
  | nil => exact hput
  | cons e rest ih => exact ih _ ((member?_carry_of_ne h e).trans hput)

theorem commit_healing {effects : List (Effect S)} (h : AsksNoJob effects) :
    (f.commit j s effects).healing = f.healing := by
  rw [commit]
  change _ = (f.modify j fun m => { m with subscriber := s }).healing
  generalize (f.modify j fun m => { m with subscriber := s }) = g
  induction effects generalizing g with
  | nil => rfl
  | cons e rest ih =>
      have hrest : AsksNoJob rest := fun block hb => h block (List.mem_cons_of_mem _ hb)
      have he : ∀ block, Effect.heal block ≠ e := fun block hb => h block (hb ▸ List.mem_cons_self)
      exact (ih hrest _).trans (carry_healing he)

/-- A job that is asked for last goes to the scheduler. -/
theorem commit_heal_healing {scheduler : Scheduler HealJob} {effects : List (Effect S)}
    (hs : f.healing = .retried scheduler) (h : AsksNoJob effects) (block : Nat) :
    ∃ now, (f.commit j s (effects ++ [.heal block])).healing =
      .retried (scheduler.submit now s.healKey ⟨j, s.healKey, block⟩) := by
  have hbefore : (f.commit j s effects).healing = .retried scheduler := (commit_healing h).trans hs
  refine ⟨(f.commit j s effects).now, ?_⟩
  rw [commit, List.foldl_append]
  change ((f.commit j s effects).submit _).healing = _
  rw [submit, hbefore]

end Fleet

end ChainReplica
