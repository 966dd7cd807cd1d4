import Mathlib.Logic.Relation
import ChainReplica.Proofs.Actions

/-!
# What operations leave as it is

Said once, for every property that operations preserve:

- an update changes a replica by writes of two kinds, and may make the snapshot
  trusted at its end (`Subscriber.update_evolves`). A property that a `Write`
  keeps is therefore kept by every update, whether it fails or goes through;
- no action changes what a subscriber is: its subscription, its venue and its
  settings (`Subscriber.Alike.act`).
-/

namespace ChainReplica

variable {S : Type}

/-! ## The writes of an update -/

/-- One write of an update: a first snapshot, or the changed snapshot of a block
that has an older checkpoint. -/
inductive Replica.Write : Replica S → Replica S → Prop where
  | first {r : Replica S} {x : S} {block : Nat} :
      r.inactive = false → r.hasSnapshot = false → Write r (r.apply (some x) block)
  | keep {r : Replica S} {base : Nat × S} {x : S} {block : Nat} :
      r.Holds → r.history.latestBefore block = some base → Write r (r.keep x block)

/-- Any number of writes. -/
abbrev Replica.Evolves : Replica S → Replica S → Prop := Relation.ReflTransGen Replica.Write

theorem Replica.Write.awake {r r' : Replica S} (h : r.Write r') : r'.inactive = false := by
  cases h with
  | first ha _ => exact ha
  | keep h _ => exact (h.keep _ _).1

theorem Replica.Evolves.awake {r r' : Replica S} (h : r.Evolves r') (ha : r.inactive = false) :
    r'.inactive = false := by
  induction h with
  | refl => exact ha
  | tail _ hlast _ => exact hlast.awake

namespace Progress

variable {p : Progress S} (source : Source S) (headers : Headers)

theorem generate_evolves (ha : p.subscriber.replica.inactive = false)
    (hbare : p.subscriber.replica.hasSnapshot = false) (block : Nat) :
    ∃ r, p.subscriber.replica.Evolves r
      ∧ (p.generate source block).subscriber = { p.subscriber with replica := r } := by
  rw [generate]
  split
  · exact ⟨_, .refl, rfl⟩
  · cases source block with
    | error e => exact ⟨_, .refl, rfl⟩
    | ok fresh =>
        have hfirst : p.subscriber.replica.Write
            (p.subscriber.replica.apply (some fresh) block) := .first ha hbare
        refine ⟨_, .single hfirst, ?_⟩
        simp [put, Subscriber.put, ha]

theorem step_evolves (ha : p.subscriber.replica.inactive = false) (run : Run) :
    ∃ r, p.subscriber.replica.Evolves r
      ∧ (p.step source headers run).1.subscriber = { p.subscriber with replica := r } := by
  let seen : Progress S := { p with newest := max p.newest run.block }
  rcases step_cases source headers p run with
    ⟨hhas, hstep⟩ | hstep | ⟨base, next, hhas, hbase, hstep⟩ <;> rw [hstep]
  · exact generate_evolves (p := seen) source ha hhas run.block
  · exact ⟨_, .refl, rfl⟩
  · exact ⟨_, .single (.keep (x := next) ⟨ha, hhas⟩ hbase),
      keep_subscriber (p := seen) ha next run.block⟩

theorem replay_evolves (ha : p.subscriber.replica.inactive = false) (runs : List Run) :
    ∃ r, p.subscriber.replica.Evolves r
      ∧ (p.replay source headers runs).1.subscriber = { p.subscriber with replica := r } := by
  refine replay_keeps source headers (P := fun q => ∃ r, p.subscriber.replica.Evolves r
    ∧ q.subscriber = { p.subscriber with replica := r }) ?_ runs ⟨_, .refl, rfl⟩
  rintro q run ⟨r, hr, hsub⟩
  have hq : q.subscriber.replica = r := by rw [hsub]
  obtain ⟨r', hr', hsub'⟩ := step_evolves source headers (hq ▸ hr.awake ha) run
  refine ⟨r', hr.trans (hq ▸ hr'), hsub'.trans ?_⟩
  rw [hsub]

theorem cover_evolves (ha : p.subscriber.replica.inactive = false) :
    ∃ r, p.subscriber.replica.Evolves r
      ∧ (p.cover source headers).subscriber = { p.subscriber with replica := r } := by
  rw [cover]
  cases headers.last? with
  | none => exact ⟨_, .refl, rfl⟩
  | some newest =>
      dsimp only
      split
      · exact ⟨_, .refl, rfl⟩
      · rename_i hbare
        exact generate_evolves (p := { p with newest := max p.newest newest.1 }) source ha
          (Bool.eq_false_iff.mpr hbare) newest.1

end Progress

/-- All that an update does to a subscriber: it writes, and trusts the snapshot
again if nothing failed. -/
theorem Subscriber.update_evolves (s : Subscriber S) (b : Batch S) :
    ∃ r, s.replica.Evolves r
      ∧ ((s.act (.update b)) = { s with replica := r }
        ∨ (s.act (.update b)) = { s with replica := r.validate }) := by
  rw [act]
  cases ha : s.replica.inactive with
  | true =>
      rw [update, if_pos ha]
      exact ⟨_, .refl, Or.inl rfl⟩
  | false =>
      rw [update_awake ha]
      split
      · exact ⟨_, .refl, Or.inl rfl⟩
      · obtain ⟨r, hr, hsub⟩ :=
          Progress.replay_evolves b.source b.headers (p := Progress.start s) ha (runs b.logs)
        rw [applyBatch]
        generalize (Progress.start s).replay b.source b.headers (runs b.logs) = q at hsub
        obtain ⟨q, failure⟩ := q
        change q.subscriber = { s with replica := r } at hsub
        change s.replica.Evolves r at hr
        cases failure with
        | some e => exact ⟨r, hr, Or.inl hsub⟩
        | none =>
            have hq : q.subscriber.replica = r := by rw [hsub]
            obtain ⟨r', hr', hcover⟩ := Progress.cover_evolves (p := q) b.source b.headers
              (by rw [hq]; exact hr.awake ha)
            refine ⟨r', hr.trans (hq ▸ hr'), Or.inr ?_⟩
            simp only [Progress.finish, hcover, hsub]

/-! ## What a subscriber is -/

/-- The same subscription, venue and settings. -/
structure Subscriber.Alike (s t : Subscriber S) : Prop where
  id : t.id = s.id
  venue : t.venue = s.venue
  settings : t.settings = s.settings

namespace Subscriber

theorem Alike.refl (s : Subscriber S) : s.Alike s := ⟨rfl, rfl, rfl⟩

theorem Alike.trans {s t u : Subscriber S} (h : s.Alike t) (h' : t.Alike u) : s.Alike u :=
  ⟨h'.id.trans h.id, h'.venue.trans h.venue, h'.settings.trans h.settings⟩

theorem Alike.healKey {s t : Subscriber S} (h : s.Alike t) : t.healKey = s.healKey := by
  rw [Subscriber.healKey, Subscriber.healKey, h.id]

variable (s : Subscriber S)

theorem put_alike (snapshot : Option S) (block : Nat) : s.Alike (s.put snapshot block).1 := by
  cases snapshot with
  | some x =>
      rw [put]
      split <;> exact ⟨rfl, rfl, rfl⟩
  | none =>
      rw [put]
      split
      · exact .refl s
      · split
        · rw [requestRefresh]
          split <;> exact ⟨rfl, rfl, rfl⟩
        · exact ⟨rfl, rfl, rfl⟩

theorem rewind_alike : ∀ move : Rewind S, s.Alike (s.rewind move).1
  | .keep => .refl s
  | .to block x => s.put_alike (some x) block
  | .clear block => s.put_alike none block

theorem rollback_alike (block : Nat) : s.Alike (s.rollback block).1 := by
  rw [rollback]
  split
  · exact .refl s
  · have hpruned : s.Alike { s with replica := (s.replica.rollback block).2 } := ⟨rfl, rfl, rfl⟩
    exact hpruned.trans (rewind_alike _ _)

theorem restart_alike (block : Nat) : s.Alike (s.restart block).1 := by
  rw [restart]
  split
  · exact .refl s
  · have hpruned : s.Alike { s with replica := (s.replica.restart block).2 } := ⟨rfl, rfl, rfl⟩
    exact hpruned.trans (rewind_alike _ _)

theorem heal_alike (source : Source S) (block : Nat) : s.Alike (s.heal source block).2.1 := by
  rw [heal]
  split
  · exact .refl s
  · cases source block with
    | error e => exact .refl s
    | ok fresh => exact s.put_alike (some fresh) block

theorem absorb_alike (found : Option (Record S)) : s.Alike (s.absorb found).1 := by
  have hended : s.Alike { s with refreshing := false } := ⟨rfl, rfl, rfl⟩
  cases found with
  | none => exact hended
  | some record =>
      rw [absorb]
      split
      · exact hended
      · exact hended.trans (put_alike _ _ _)

theorem build_alike (world : Surroundings S) (block : Nat) (announced : Bool) :
    s.Alike (s.build world block announced).subscriber := by
  rw [build]
  cases world.source block with
  | error e => exact .refl s
  | ok fresh => exact s.put_alike (some fresh) block

theorem establish_alike (world : Surroundings S) (block : Nat) (start : Start S) :
    s.Alike (s.establish world block start).subscriber :=
  establish_cases (motive := fun o => s.Alike o.subscriber)
    (fun x k _ => s.put_alike (some x) k) (fun announced _ => s.build_alike world block announced)
    start

theorem update_alike (b : Batch S) : s.Alike (s.act (.update b)) := by
  obtain ⟨r, -, hsub | hsub⟩ := s.update_evolves b <;> rw [hsub] <;> exact ⟨rfl, rfl, rfl⟩

variable {s}

/-- No action changes what a subscriber is. -/
theorem Alike.act {t : Subscriber S} (h : s.Alike t) (a : Action S) : s.Alike (t.act a) := by
  refine h.trans ?_
  cases a with
  | establish world block start => exact t.establish_alike world block start
  | update b => exact t.update_alike b
  | absorb found => exact t.absorb_alike found
  | heal source block => exact t.heal_alike source block
  | put snapshot block => exact t.put_alike snapshot block
  | rollback block => exact t.rollback_alike block
  | restart block => exact t.restart_alike block
  | invalidate =>
      rw [Subscriber.act, invalidate]
      split <;> exact ⟨rfl, rfl, rfl⟩
  | inactivate => exact ⟨rfl, rfl, rfl⟩

end Subscriber

end ChainReplica
