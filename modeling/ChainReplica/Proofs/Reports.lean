import ChainReplica.Proofs.Actions
import ChainReplica.Proofs.Publication
import ChainReplica.Proofs.Writes

/-!
# What an action publishes

`Subscriber.asked` lists what an action asks of the outside world, and `stored`
picks the snapshots that are to be published. Only a master that shares publishes
any, and the last one that an action publishes is the one it leaves behind, with
its block; if it publishes none, it leaves behind the snapshot from before, or
none at all (`Subscriber.act_reports`).

That is what `Reports` says of a step from one replica to another. The pointer is
moved on one path only, `put`, so it is proved for `put` and carried through
everything that calls it.
-/

namespace ChainReplica

variable {S : Type}

/-! ## Effects that publish -/

/-- The snapshot that an effect publishes. -/
def Effect.stored? : Effect S → Option (Nat × S)
  | .store block snapshot => some (block, snapshot)
  | _ => none

def stored (effects : List (Effect S)) : List (Nat × S) := effects.filterMap Effect.stored?

@[simp] theorem stored_nil : stored ([] : List (Effect S)) = [] := rfl

@[simp] theorem stored_append (effects others : List (Effect S)) :
    stored (effects ++ others) = stored effects ++ stored others := List.filterMap_append

def Subscriber.asked (s : Subscriber S) : Action S → List (Effect S)
  | .establish world block start => (s.establish world block start).effects
  | .update b => (s.update b.source b.logs b.headers).effects
  | .absorb found => (s.absorb found).2
  | .heal source block => (s.heal source block).2.2
  | .put snapshot block => (s.put snapshot block).2
  | .rollback block => (s.rollback block).2
  | .restart block => (s.restart block).2
  | .invalidate => []
  | .inactivate => []

/-! ## Steps that report -/

/-- A step that publishes nothing unless `shares`, and otherwise nothing after the
snapshot that it leaves behind. -/
structure Reports (shares : Bool) (effects : List (Effect S)) (r r' : Replica S) : Prop where
  silent : shares = false → stored effects = []
  last : shares = true → ∀ x, r'.current = some x →
    (stored effects).getLast? = some (r'.pointer, x)
      ∨ (stored effects = [] ∧ r.current = some x ∧ r.pointer = r'.pointer)

namespace Reports

variable {shares : Bool} {effects others : List (Effect S)} {r r' r'' : Replica S}

/-- A step that leaves the snapshot and its block alone. -/
theorem of_same (heffects : stored effects = []) (hcurrent : r'.current = r.current)
    (hpointer : r'.pointer = r.pointer) : Reports shares effects r r' :=
  ⟨fun _ => heffects, fun _ _ hx => Or.inr ⟨heffects, hcurrent ▸ hx, hpointer.symm⟩⟩

theorem refl (r : Replica S) : Reports shares [] r r := of_same rfl rfl rfl

theorem of_dropped (heffects : stored effects = []) (hnone : r'.current = none) :
    Reports shares effects r r' :=
  ⟨fun _ => heffects, fun _ x hx => by cases hnone.symm.trans hx⟩

theorem trans (h : Reports shares effects r r') (h' : Reports shares others r' r'') :
    Reports shares (effects ++ others) r r'' := by
  refine ⟨fun hs => ?_, fun hs x hx => ?_⟩
  · rw [stored_append, h.silent hs, h'.silent hs, List.append_nil]
  · rw [stored_append]
    rcases h'.last hs x hx with hlast | ⟨hnone, hcurrent, hpointer⟩
    · left
      rw [List.getLast?_append, hlast, Option.some_or]
    · rw [hnone, List.append_nil, ← hpointer]
      exact h.last hs x hcurrent

/-- What else is asked for does not matter. -/
theorem congr (h : Reports shares effects r r') (hstored : stored others = stored effects) :
    Reports shares others r r' := by
  refine ⟨fun hs => ?_, fun hs x hx => ?_⟩
  · rw [hstored, h.silent hs]
  · rw [hstored]
    exact h.last hs x hx

end Reports

/-! ## Putting a snapshot in place -/

namespace Subscriber

variable (s : Subscriber S)

abbrev shares (s : Subscriber S) : Bool := s.settings.sharesAs .master

theorem stored_requestRefresh : stored s.requestRefresh.2 = [] := by
  rw [requestRefresh]
  split <;> rfl

theorem put_reports (snapshot : Option S) (block : Nat) :
    Reports s.shares (s.put snapshot block).2 s.replica (s.put snapshot block).1.replica := by
  cases snapshot with
  | none =>
      rw [put]
      split
      · exact .refl _
      · split
        · refine .of_same s.stored_requestRefresh ?_ ?_ <;> rw [replica_requestRefresh]
        · exact .of_dropped rfl rfl
  | some x =>
      rw [put]
      split
      · exact .refl _
      · refine ⟨fun hs => ?_, fun hs y hy => Or.inl ?_⟩
        · simp only [hs, Bool.false_eq_true, if_false, stored_nil]
        · obtain rfl : x = y := Option.some.inj hy
          simp only [hs, if_true]
          rfl

/-- The move after a pruning. -/
theorem rewind_reports {r : Replica S} (hcurrent : s.replica.current = r.current)
    (hpointer : s.replica.pointer = r.pointer) (move : Rewind S) :
    Reports s.shares (s.rewind move).2 r (s.rewind move).1.replica := by
  have hpruned : Reports s.shares [] r s.replica := .of_same rfl hcurrent hpointer
  match move with
  | .keep => exact hpruned
  | .to block x => exact hpruned.trans (s.put_reports (some x) block)
  | .clear block => exact hpruned.trans (s.put_reports none block)

theorem rollback_reports (block : Nat) :
    Reports s.shares (s.rollback block).2 s.replica (s.rollback block).1.replica := by
  rw [rollback]
  split
  · exact .refl _
  · refine rewind_reports { s with replica := (s.replica.rollback block).2 } ?_ ?_ _
    all_goals
      rw [Replica.rollback]
      split <;> rfl

theorem restart_reports (block : Nat) :
    Reports s.shares (s.restart block).2 s.replica (s.restart block).1.replica := by
  rw [restart]
  split
  · exact .refl _
  · exact rewind_reports { s with replica := (s.replica.restart block).2 }
      (r := s.replica) rfl rfl _

theorem build_reports (world : Surroundings S) (block : Nat) (announced : Bool) :
    Reports s.shares (s.build world block announced).effects s.replica
      (s.build world block announced).subscriber.replica := by
  rw [build]
  cases world.source block with
  | error e => exact .of_same rfl rfl rfl
  | ok fresh =>
      refine (s.put_reports (some fresh) block).congr ?_
      cases announced <;> simp [registered, stored, Effect.stored?, List.filterMap_cons]

theorem adopt_reports (world : Surroundings S) (x : S) (block baseline : Nat) :
    Reports s.shares (s.adopt world x block baseline).effects s.replica
      (s.adopt world x block baseline).subscriber.replica := by
  refine (s.put_reports (some x) block).congr ?_
  simp [adopt, registered, stored, Effect.stored?, List.filterMap_cons]

theorem establish_reports (world : Surroundings S) (block : Nat) (start : Start S) :
    Reports s.shares (s.establish world block start).effects s.replica
      (s.establish world block start).subscriber.replica :=
  establish_cases (motive := fun o => Reports s.shares o.effects s.replica o.subscriber.replica)
    (s.adopt_reports world) (fun announced _ => s.build_reports world block announced) start

theorem heal_reports (source : Source S) (block : Nat) :
    Reports s.shares (s.heal source block).2.2 s.replica (s.heal source block).2.1.replica := by
  rw [heal]
  split
  · exact .refl _
  · cases source block with
    | error e => exact .of_same rfl rfl rfl
    | ok fresh => exact (s.put_reports (some fresh) block).congr rfl

theorem absorb_reports (found : Option (Record S)) :
    Reports s.shares (s.absorb found).2 s.replica (s.absorb found).1.replica := by
  cases found with
  | none => exact .refl _
  | some record =>
      rw [absorb]
      split
      · exact .refl _
      · exact put_reports { s with refreshing := false } (some record.snapshot) record.block

end Subscriber

/-! ## Updates -/

namespace Progress

/-- From one state of an update to a later one. -/
structure Leads (p q : Progress S) : Prop where
  settings : q.subscriber.settings = p.subscriber.settings
  reports : ∃ asked, q.effects = p.effects ++ asked
    ∧ Reports p.subscriber.shares asked p.subscriber.replica q.subscriber.replica

variable {p q u : Progress S}

theorem Leads.refl (p : Progress S) : p.Leads p := ⟨rfl, [], (List.append_nil _).symm, .refl _⟩

theorem Leads.trans (h : p.Leads q) (h' : q.Leads u) : p.Leads u := by
  obtain ⟨asked, heffects, hreports⟩ := h.reports
  obtain ⟨asked', heffects', hreports'⟩ := h'.reports
  rw [Subscriber.shares, h.settings] at hreports'
  refine ⟨h'.settings.trans h.settings, asked ++ asked', ?_, hreports.trans hreports'⟩
  rw [heffects', heffects, List.append_assoc]

theorem put_leads (p : Progress S) (x : S) (block : Nat) : p.Leads (p.put x block) := by
  refine ⟨?_, _, rfl, p.subscriber.put_reports (some x) block⟩
  change (p.subscriber.put (some x) block).1.settings = p.subscriber.settings
  rw [Subscriber.put]
  split <;> rfl

theorem generate_leads (source : Source S) (p : Progress S) (block : Nat) :
    p.Leads (p.generate source block) := by
  rw [generate]
  split
  · exact .refl p
  · have hasked : ∀ refusal, p.Leads { p with
        effects := p.effects ++ [Effect.generate block], refusal := refusal } :=
      fun refusal => ⟨rfl, [.generate block], rfl, .of_same rfl rfl rfl⟩
    cases source block with
    | error e => exact hasked (some e)
    | ok fresh => exact (hasked p.refusal).trans (put_leads _ fresh block)

theorem keep_leads (p : Progress S) (x : S) (block : Nat) : p.Leads (p.keep x block) := by
  rw [keep]
  split
  · exact put_leads p x block
  · exact ⟨rfl, [], (List.append_nil _).symm, .of_same rfl rfl rfl⟩

variable (source : Source S) (headers : Headers)

theorem step_leads (p : Progress S) (run : Run) : p.Leads (p.step source headers run).1 := by
  have hseen : p.Leads { p with newest := max p.newest run.block } :=
    ⟨rfl, [], (List.append_nil _).symm, .refl _⟩
  rcases step_cases source headers p run with ⟨-, hstep⟩ | hstep | ⟨_, next, -, -, hstep⟩ <;>
    rw [hstep]
  · exact hseen.trans (generate_leads source _ run.block)
  · exact hseen
  · exact hseen.trans (keep_leads _ next run.block)

theorem replay_leads (runs : List Run) (p : Progress S) :
    p.Leads (p.replay source headers runs).1 :=
  replay_keeps source headers (P := p.Leads)
    (fun q run h => h.trans (step_leads source headers q run)) runs (.refl p)

theorem cover_leads (p : Progress S) : p.Leads (p.cover source headers) := by
  rw [cover]
  cases headers.last? with
  | none => exact .refl p
  | some newest =>
      have hseen : p.Leads { p with newest := max p.newest newest.1 } :=
        ⟨rfl, [], (List.append_nil _).symm, .refl _⟩
      dsimp only
      split
      · exact hseen
      · exact hseen.trans (generate_leads source _ newest.1)

end Progress

namespace Subscriber

variable (s : Subscriber S)

theorem update_reports (b : Batch S) :
    Reports s.shares (s.asked (.update b)) s.replica (s.act (.update b)).replica := by
  rw [asked, act, update]
  split
  · exact .refl _
  · dsimp only
    split
    · exact .refl _
    · have hreplay := Progress.replay_leads b.source b.headers (runs b.logs) (Progress.start s)
      rw [applyBatch]
      generalize (Progress.start s).replay b.source b.headers (runs b.logs) = q at hreplay
      obtain ⟨q, failure⟩ := q
      cases failure with
      | some e =>
          obtain ⟨asked, heffects, hreports⟩ := hreplay.reports
          obtain rfl : q.effects = asked := heffects
          exact hreports
      | none =>
          obtain ⟨asked, heffects, hreports⟩ :=
            (hreplay.trans (Progress.cover_leads b.source b.headers q)).reports
          obtain rfl : (q.cover b.source b.headers).effects = asked := heffects
          refine Reports.congr ⟨hreports.silent, hreports.last⟩ ?_
          simp only [Progress.finish, stored_append]
          split
          · exact List.append_nil _
          · exact List.append_nil _

/-- What an action publishes last is what it leaves behind. -/
theorem act_reports (a : Action S) : Reports s.shares (s.asked a) s.replica (s.act a).replica := by
  cases a with
  | establish world block start => exact s.establish_reports world block start
  | update b => exact s.update_reports b
  | absorb found => exact s.absorb_reports found
  | heal source block => exact s.heal_reports source block
  | put snapshot block => exact s.put_reports snapshot block
  | rollback block => exact s.rollback_reports block
  | restart block => exact s.restart_reports block
  | invalidate =>
      rw [act, invalidate]
      split
      · exact .refl _
      · exact .of_same rfl rfl rfl
  | inactivate => exact .of_same rfl rfl rfl

end Subscriber

/-! ## When nothing is published, and when one snapshot is -/

namespace Replica

variable {venue : Venue S} {headers : Headers}

theorem pointer_le_take {r r' : Replica S} {run : Run} (h : r.take venue headers run = .ok r') :
    r.pointer ≤ r'.pointer := by
  rcases take_cases h with rfl | ⟨x, rfl⟩
  · exact Nat.le_refl _
  · rw [keep]
    split
    · exact Nat.le_of_lt ‹_›
    · exact Nat.le_refl _

theorem pointer_le_replay (venue : Venue S) (headers : Headers) :
    ∀ (runs : List Run) (r : Replica S), r.pointer ≤ (r.replay venue headers runs).1.pointer
  | [], _ => Nat.le_refl _
  | run :: rest, r => by
      rw [replay]
      cases ht : r.take venue headers run with
      | error e => exact Nat.le_refl _
      | ok next =>
          exact Nat.le_trans (pointer_le_take ht) (pointer_le_replay venue headers rest next)

/-- If the pointer has not moved in the end, nothing became current meanwhile. -/
theorem published_of_still : ∀ (runs : List Run) (r : Replica S),
    (r.replay venue headers runs).1.pointer = r.pointer → r.published venue headers runs = []
  | [], _, _ => rfl
  | run :: rest, r, h => by
      rw [replay] at h
      rw [published]
      cases ht : r.take venue headers run with
      | error e => rfl
      | ok next =>
          rw [ht] at h
          change (next.replay venue headers rest).1.pointer = r.pointer at h
          have hfirst := pointer_le_take ht
          have hrest := pointer_le_replay venue headers rest next
          have hstill : next.pointer = r.pointer := by omega
          change r.moved next ++ next.published venue headers rest = []
          rw [published_of_still rest next (by omega), moved, if_neg (by omega), List.nil_append]

end Replica

namespace Subscriber

variable {s : Subscriber S}

/-- An update of a held snapshot that does not move the pointer asks for nothing. -/
theorem effects_of_still (h : s.replica.Holds) {source : Source S} {logs : List Log}
    {headers : Headers}
    (hstill : (s.update source logs headers).subscriber.replica.pointer = s.replica.pointer) :
    (s.update source logs headers).effects = [] := by
  rw [update_held h] at hstill
  rw [effects_held h]
  split
  · rfl
  · rename_i haccepts
    rw [if_neg haccepts] at hstill
    have hreplay : (s.replayed logs headers).1.pointer = s.replica.pointer := by
      rw [← hstill, Replica.settle.eq_def]
      generalize s.replayed logs headers = q
      obtain ⟨q, failure⟩ := q
      cases failure <;> rfl
    rw [Replica.published_of_still _ _ hreplay, stores_nil]

/-- A rollback that goes back to a checkpoint publishes it. -/
theorem rollback_stores (hshares : s.shares = true) (ha : s.replica.inactive = false)
    {block c : Nat} {x : S} (hmove : (s.replica.rollback block).1 = .to c x) :
    (s.rollback block).2 = [.store c x] := by
  have hawake : (s.replica.rollback block).2.inactive = false := by
    rw [← ha, Replica.rollback]
    split <;> rfl
  rw [rollback, if_neg (by simp [ha])]
  simp [hmove, rewind, put, hawake, hshares]

end Subscriber

end ChainReplica
