import ChainReplica.Proofs.Asking
import ChainReplica.Proofs.Preservation
import ChainReplica.Proofs.Reports

/-!
# What a role asks for

Which effects a subscriber may ask for is a matter of its settings
(`Settings.Allows`): only a master publishes, and only one that shares; only a
slave that shares announces itself and asks for refreshes; only a master asks for
jobs. No action asks for anything else (`Subscriber.asked_allowed`).

Requests for a refresh are counted (`Subscriber.act_counts`): an action asks for one
if it makes the subscriber wait for one, and for none if the subscriber waits already.
-/

namespace ChainReplica

variable {S : Type}

/-- The effects that a subscriber with these settings may ask for. -/
def Settings.Allows (c : Settings) : Effect S → Prop
  | .generate _ | .register _ => True
  | .store .. => c.sharesAs .master = true
  | .announce _ | .refresh | .coalesce => c.sharesAs .slave = true
  | .heal _ => c.role = .master

theorem Settings.sharesAs_iff {c : Settings} {role : Role} :
    c.sharesAs role = true ↔ c.shareCache = true ∧ c.role = role := by
  rw [sharesAs, Bool.and_eq_true, beq_iff_eq]

/-- A master does not share as slaves do. -/
theorem Settings.sharesAs_slave_of_master {c : Settings} (h : c.role = .master) :
    c.sharesAs .slave = false := by
  simp [sharesAs, h]

def Effect.isRefresh : Effect S → Bool
  | .refresh => true
  | _ => false

theorem Effect.Plain.isRefresh {e : Effect S} (h : e.Plain) : e.isRefresh = false := by
  cases e with
  | refresh => cases h
  | _ => rfl

theorem countP_isRefresh_of_plain {effects : List (Effect S)} (h : ∀ e ∈ effects, e.Plain) :
    effects.countP Effect.isRefresh = 0 :=
  List.countP_eq_zero.mpr fun e he => Bool.eq_false_iff.mp (h e he).isRefresh

namespace Subscriber

/-! ## What an update asks for -/

/-- An update asks for plain effects, and a master may ask for a job after them. -/
theorem update_asks (s : Subscriber S) (b : Batch S) :
    ∃ plain, (∀ e ∈ plain, e.Plain) ∧ (s.asked (.update b) = plain
      ∨ (s.settings.role = .master ∧ ∃ block, s.asked (.update b) = plain ++ [.heal block])) := by
  have hsettings := (s.update_alike b).settings
  have hnothing : ∀ e ∈ ([] : List (Effect S)), e.Plain := List.forall_mem_nil _
  rw [act] at hsettings
  rw [asked]
  -- The tail of an update reads the role of the subscriber that it ends with, so what
  -- is known of its settings goes through the branches as part of the goal.
  revert hsettings
  rw [update]
  split
  · exact fun _ => ⟨[], hnothing, Or.inl rfl⟩
  · dsimp only
    split
    · exact fun _ => ⟨[], hnothing, Or.inl rfl⟩
    · have hreplay := Progress.replay_plain b.source b.headers (p := Progress.start s) hnothing
        (runs b.logs)
      rw [applyBatch]
      generalize (Progress.start s).replay b.source b.headers (runs b.logs) = q at hreplay
      obtain ⟨q, failure⟩ := q
      cases failure with
      | some e => exact fun _ => ⟨_, hreplay, Or.inl rfl⟩
      | none =>
          have hcover := Progress.cover_plain b.source b.headers hreplay
          intro hsettings
          refine ⟨_, hcover, ?_⟩
          dsimp only [Progress.finish] at hsettings ⊢
          split
          · rename_i hneeds
            simp only [Progress.needsHealing, hsettings, Bool.and_eq_true, beq_iff_eq] at hneeds
            exact Or.inr ⟨hneeds.1.2, _, rfl⟩
          · exact Or.inl (List.append_nil _)

/-! ## Requests for a refresh -/

variable (s : Subscriber S)

/-- Waits for a refresh if it did before or asks for one, and never asks twice. -/
def Counts (s t : Subscriber S) (effects : List (Effect S)) : Prop :=
  t.refreshing.toNat = s.refreshing.toNat + effects.countP Effect.isRefresh

theorem Counts.of_same {s t : Subscriber S} {effects : List (Effect S)}
    (h : t.refreshing = s.refreshing) (hnone : effects.countP Effect.isRefresh = 0) :
    s.Counts t effects := by
  rw [Counts, h, hnone, Nat.add_zero]

theorem refreshing_put_some (x : S) (block : Nat) :
    (s.put (some x) block).1.refreshing = s.refreshing := by
  rw [put]
  split <;> rfl

theorem requestRefresh_counts : s.Counts s.requestRefresh.1 s.requestRefresh.2 := by
  cases h : s.refreshing <;> simp [Counts, requestRefresh, h, Effect.isRefresh]

theorem put_counts (snapshot : Option S) (block : Nat) :
    s.Counts (s.put snapshot block).1 (s.put snapshot block).2 := by
  cases snapshot with
  | some x =>
      exact .of_same (s.refreshing_put_some x block)
        (countP_isRefresh_of_plain (s.put_some_plain x block))
  | none =>
      rw [put]
      split
      · exact .of_same rfl rfl
      · split
        · exact s.requestRefresh_counts
        · exact .of_same rfl rfl

theorem rewind_counts : ∀ move : Rewind S, s.Counts (s.rewind move).1 (s.rewind move).2
  | .keep => .of_same rfl rfl
  | .to block x => s.put_counts (some x) block
  | .clear block => s.put_counts none block

theorem build_counts (world : Surroundings S) (block : Nat) (announced : Bool) :
    s.Counts (s.build world block announced).subscriber
      (s.build world block announced).effects := by
  rw [build]
  cases world.source block with
  | error e => exact .of_same rfl rfl
  | ok fresh =>
      refine .of_same (s.refreshing_put_some fresh block) ?_
      have hput := countP_isRefresh_of_plain (s.put_some_plain fresh block)
      cases announced <;> simp [registered, Effect.isRefresh, hput]

theorem adopt_counts (world : Surroundings S) (x : S) (block baseline : Nat) :
    s.Counts (s.adopt world x block baseline).subscriber
      (s.adopt world x block baseline).effects := by
  refine .of_same (s.refreshing_put_some x block) ?_
  have hput := countP_isRefresh_of_plain (s.put_some_plain x block)
  simp [adopt, registered, Effect.isRefresh, hput]

theorem establish_counts (world : Surroundings S) (block : Nat) (start : Start S) :
    s.Counts (s.establish world block start).subscriber
      (s.establish world block start).effects :=
  establish_cases (motive := fun o => s.Counts o.subscriber o.effects) (s.adopt_counts world)
    (fun announced _ => s.build_counts world block announced) start

theorem update_counts (b : Batch S) : s.Counts (s.act (.update b)) (s.asked (.update b)) := by
  have hsame : (s.act (.update b)).refreshing = s.refreshing := by
    obtain ⟨r, -, hsub | hsub⟩ := s.update_evolves b <;> rw [hsub]
  obtain ⟨plain, hplain, hasked | ⟨-, block, hasked⟩⟩ := s.update_asks b
  · exact .of_same hsame (hasked ▸ countP_isRefresh_of_plain hplain)
  · refine .of_same hsame ?_
    rw [hasked, List.countP_append, countP_isRefresh_of_plain hplain]
    rfl

/-- The requests for a refresh in an action that is not the end of one. -/
theorem act_counts (a : Action S) (hend : ∀ found, a ≠ .absorb found) :
    s.Counts (s.act a) (s.asked a) := by
  cases a with
  | establish world block start => exact s.establish_counts world block start
  | update b => exact s.update_counts b
  | absorb found => exact absurd rfl (hend found)
  | heal source block =>
      refine .of_same ?_ (countP_isRefresh_of_plain (s.heal_plain source block))
      rw [act, heal]
      split
      · rfl
      · cases source block with
        | error e => rfl
        | ok fresh => exact s.refreshing_put_some fresh block
  | put snapshot block => exact s.put_counts snapshot block
  | rollback block =>
      rw [act, asked, rollback]
      split
      · exact .of_same rfl rfl
      · exact rewind_counts { s with replica := (s.replica.rollback block).2 } _
  | restart block =>
      rw [act, asked, restart]
      split
      · exact .of_same rfl rfl
      · exact rewind_counts { s with replica := (s.replica.restart block).2 } _
  | invalidate =>
      rw [act, invalidate]
      split <;> exact .of_same rfl rfl
  | inactivate => exact .of_same rfl rfl

/-! ## What a role allows -/

variable {s}

theorem put_allowed (snapshot : Option S) (block : Nat) :
    ∀ e ∈ (s.put snapshot block).2, s.settings.Allows e := by
  intro e he
  cases snapshot with
  | none =>
      rw [put] at he
      split at he
      · cases he
      · split at he
        · rename_i hslave
          rw [requestRefresh] at he
          split at he <;> rw [List.mem_singleton.mp he] <;> exact hslave
        · cases he
  | some x =>
      rw [put] at he
      split at he
      · cases he
      · dsimp only at he
        split at he
        · rename_i hmaster
          rw [List.mem_singleton.mp he]
          exact hmaster
        · cases he

theorem rewind_allowed : ∀ move : Rewind S, ∀ e ∈ (s.rewind move).2, s.settings.Allows e
  | .keep => List.forall_mem_nil _
  | .to block x => put_allowed (some x) block
  | .clear block => put_allowed none block

theorem adopt_allowed (world : Surroundings S) (x : S) (block baseline : Nat) :
    ∀ e ∈ (s.adopt world x block baseline).effects, s.settings.Allows e :=
  List.forall_mem_append.mpr
    ⟨put_allowed (some x) block, List.forall_mem_singleton.mpr trivial⟩

theorem build_allowed (world : Surroundings S) (block : Nat) {announced : Bool}
    (h : announced = true → s.settings.sharesAs .slave = true) :
    ∀ e ∈ (s.build world block announced).effects, s.settings.Allows e := by
  rw [build]
  cases world.source block with
  | error e => exact List.forall_mem_singleton.mpr trivial
  | ok fresh =>
      have hannounced : ∀ e ∈ (if announced then [Effect.announce (S := S) block] else []),
          s.settings.Allows e := by
        split
        · exact List.forall_mem_singleton.mpr (h ‹_›)
        · exact List.forall_mem_nil _
      refine List.forall_mem_append.mpr ⟨?_, List.forall_mem_singleton.mpr trivial⟩
      exact List.forall_mem_append.mpr
        ⟨List.forall_mem_cons.mpr ⟨trivial, put_allowed (some fresh) block⟩, hannounced⟩

theorem establish_allowed (world : Surroundings S) (block : Nat) (start : Start S) :
    ∀ e ∈ (s.establish world block start).effects, s.settings.Allows e :=
  establish_cases (motive := fun o => ∀ e ∈ o.effects, s.settings.Allows e) (adopt_allowed world)
    (fun _ hslave => build_allowed world block hslave) start

/-- A plain effect is allowed if it publishes only where that is allowed. -/
theorem allowed_of_plain {effects : List (Effect S)}
    (hplain : ∀ e ∈ effects, e.Plain) (hsilent : s.shares = false → stored effects = []) :
    ∀ e ∈ effects, s.settings.Allows e := by
  intro e he
  cases e with
  | generate block => trivial
  | store block x =>
      cases hshares : s.shares with
      | true => exact hshares
      | false =>
          have hmem : (block, x) ∈ stored effects := List.mem_filterMap.mpr ⟨_, he, rfl⟩
          rw [hsilent hshares] at hmem
          cases hmem
  | _ => exact (hplain _ he).elim

theorem update_allowed (b : Batch S) : ∀ e ∈ s.asked (.update b), s.settings.Allows e := by
  have hsilent := (s.update_reports b).silent
  obtain ⟨plain, hplain, hasked | ⟨hmaster, block, hasked⟩⟩ := s.update_asks b
  · rw [hasked] at hsilent ⊢
    exact allowed_of_plain hplain hsilent
  · rw [hasked, stored_append] at hsilent
    rw [hasked]
    exact List.forall_mem_append.mpr
      ⟨allowed_of_plain hplain fun hs => (List.append_eq_nil_iff.mp (hsilent hs)).1,
        List.forall_mem_singleton.mpr hmaster⟩

/-- An action asks for nothing that the settings do not allow. -/
theorem asked_allowed (s : Subscriber S) (a : Action S) :
    ∀ e ∈ s.asked a, s.settings.Allows e := by
  cases a with
  | establish world block start => exact establish_allowed world block start
  | update b => exact update_allowed b
  | absorb found =>
      exact allowed_of_plain (s.absorb_plain found) (s.absorb_reports found).silent
  | heal source block =>
      exact allowed_of_plain (s.heal_plain source block) (s.heal_reports source block).silent
  | put snapshot block => exact put_allowed snapshot block
  | rollback block =>
      rw [asked, rollback]
      split
      · exact List.forall_mem_nil _
      · exact rewind_allowed (s := { s with replica := (s.replica.rollback block).2 }) _
  | restart block =>
      rw [asked, restart]
      split
      · exact List.forall_mem_nil _
      · exact rewind_allowed (s := { s with replica := (s.replica.restart block).2 }) _
  | invalidate => exact List.forall_mem_nil _
  | inactivate => exact List.forall_mem_nil _

end Subscriber

end ChainReplica
