import ChainReplica.Proofs.Preservation
import ChainReplica.Proofs.Reorganization

/-!
# Checkpoints within the window of the pointer

While a snapshot is held, its pointer has a checkpoint, and every checkpoint is
within the retention window behind the pointer; without a snapshot there is no
checkpoint at all (`Subscriber.perform_windowed`). So the next block always
finds a base.

Every operation restores this in its own way. A first snapshot meets an empty
history, a newer block prunes against itself, and an older one is checkpointed
between its base and the pointer. A rollback returns to the newest checkpoint
that is left, and a restart drops the pointer together with its checkpoint.

Three things are excluded, since they may leave checkpoints after the pointer:
a second first snapshot, a write from outside, and a record from the cache,
which only a slave that shares ever asks for.
-/

namespace ChainReplica

variable {S : Type}

/-! ## Replicas -/

/-- A replica that keeps `retention` blocks behind its pointer, and none without
a snapshot. -/
structure Replica.Windowed (retention : Nat) (r : Replica S) : Prop where
  retained : r.history.retention = retention
  bare : r.hasSnapshot = false → ∀ e, e ∉ r.entries
  pointed : r.hasSnapshot = true → ∃ x, (r.pointer, x) ∈ r.entries
  window : ∀ e ∈ r.entries, r.pointer - retention ≤ e.1 ∧ e.1 ≤ r.pointer

namespace Replica.Windowed

variable {retention block : Nat} {r r' : Replica S} {x : S}

theorem new (retention : Nat) : (Replica.new retention : Replica S).Windowed retention where
  retained := rfl
  bare := by
    rintro - e ⟨⟩
  pointed := by
    rintro ⟨⟩
  window := by
    rintro e ⟨⟩

/-- A write at a block that no checkpoint is after. -/
theorem of_apply (hr : r.history.retention = retention) (hle : ∀ e ∈ r.entries, e.1 ≤ block) :
    (r.apply (some x) block).Windowed retention where
  retained := hr
  bare := by
    rintro ⟨⟩
  pointed := by
    intro _
    exact ⟨x, mem_apply_self⟩
  window := by
    intro e he
    obtain ⟨hentry, hkept⟩ := mem_apply.mp he
    rw [hr] at hkept
    refine ⟨hkept, ?_⟩
    rcases hentry with rfl | ⟨he, -⟩
    · exact Nat.le_refl block
    · exact hle e he

theorem first (h : r.Windowed retention) (hbare : r.hasSnapshot = false) :
    (r.apply (some x) block).Windowed retention := by
  apply of_apply h.retained
  intro e he
  exact absurd he (h.bare hbare e)

/-- A block that is not newer than the pointer stands between its base and the
pointer, so its checkpoint is within the window. -/
theorem checkpoint {base : Nat × S} (h : r.Windowed retention) (hle : block ≤ r.pointer)
    (hbase : r.history.latestBefore block = some base) :
    (r.checkpoint block x).Windowed retention := by
  obtain ⟨⟨hmem, hlt⟩, -⟩ := History.latestBefore_eq_some_iff.mp hbase
  have hlow : r.pointer - retention ≤ base.1 := (h.window base hmem).1
  refine ⟨h.retained, ?_, ?_, ?_⟩
  · intro hbare
    exact absurd hmem (h.bare hbare base)
  · intro hhas
    obtain ⟨y, hy⟩ := h.pointed hhas
    by_cases hpointer : r.pointer = block
    · exact ⟨x, mem_checkpoint.mpr (Or.inl (congrArg (·, x) hpointer))⟩
    · exact ⟨y, mem_checkpoint.mpr (Or.inr ⟨hy, hpointer⟩)⟩
  · intro e he
    show r.pointer - retention ≤ e.1 ∧ e.1 ≤ r.pointer
    rcases mem_checkpoint.mp he with rfl | ⟨he, -⟩
    · exact ⟨Nat.le_trans hlow (Nat.le_of_lt hlt), hle⟩
    · exact h.window e he

theorem write (h : r.Windowed retention) (hw : r.Write r') : r'.Windowed retention := by
  cases hw with
  | first _ hbare => exact h.first hbare
  | keep _ hbase =>
      rw [Replica.keep]
      split
      · rename_i hnewer
        apply of_apply h.retained
        intro e he
        exact Nat.le_of_lt (Nat.lt_of_le_of_lt (h.window e he).2 hnewer)
      · rename_i holder
        exact h.checkpoint (Nat.le_of_not_lt holder) hbase

theorem evolves (h : r.Windowed retention) (hevolves : r.Evolves r') : r'.Windowed retention := by
  induction hevolves with
  | refl => exact h
  | tail _ hlast ih => exact ih.write hlast

theorem validate (h : r.Windowed retention) : r.validate.Windowed retention :=
  ⟨h.retained, h.bare, h.pointed, h.window⟩

/-- Dropping checkpoints other than that of the pointer. -/
theorem prune {history : History S} (h : r.Windowed retention)
    (hretained : history.retention = r.history.retention)
    (hsub : ∀ e ∈ history.entries, e ∈ r.entries)
    (hkept : r.hasSnapshot = true → ∀ e ∈ r.entries, e.1 = r.pointer → e ∈ history.entries) :
    { r with history := history }.Windowed retention := by
  refine ⟨hretained.trans h.retained, ?_, ?_, ?_⟩
  · intro hbare e he
    exact h.bare hbare e (hsub e he)
  · intro hhas
    obtain ⟨x, hx⟩ := h.pointed hhas
    exact ⟨x, hkept hhas _ hx rfl⟩
  · intro e he
    exact h.window e (hsub e he)

/-- Dropping the snapshot after the last checkpoint is gone. -/
theorem clear (hr : r.history.retention = retention) (hnone : ∀ e, e ∉ r.entries) :
    (r.apply none block).Windowed retention where
  retained := hr
  bare := by
    intro _
    exact hnone
  pointed := by
    rintro ⟨⟩
  window := by
    intro e he
    exact absurd he (hnone e)

end Replica.Windowed

/-! ## Subscribers -/

namespace Subscriber

variable {s : Subscriber S} {retention : Nat}

theorem put_first (h : s.replica.Windowed retention) (hbare : s.replica.hasSnapshot = false)
    (x : S) (block : Nat) : (s.put (some x) block).1.replica.Windowed retention := by
  rw [put]
  split
  · exact h
  · exact h.first hbare

theorem put_none_of_keeps (ha : s.replica.inactive = false)
    (hslave : s.settings.sharesAs .slave = false) (block : Nat) :
    (s.put none block).1.replica = s.replica.apply none block := by
  simp [put, ha, hslave]

theorem rollback_windowed_of_invalid (h : s.replica.Windowed retention)
    (ha : s.replica.inactive = false) (hslave : s.settings.sharesAs .slave = false)
    (block : Nat) : (s.invalidate.rollback block).1.replica.Windowed retention := by
  cases hc : s.replica.history.latestUpTo block with
  | some e =>
      obtain ⟨c, x⟩ := e
      have hmax := (History.latestUpTo_eq_some_iff.mp hc).2
      rw [rollback_of_some ha hc]
      refine Replica.Windowed.of_apply h.retained ?_
      intro e he
      obtain ⟨hmem, hle⟩ := Replica.mem_cut.mp he
      exact hmax e hmem hle
  | none =>
      have hnewer := History.latestUpTo_eq_none_iff.mp hc
      rw [rollback_of_none ha hc, put_none_of_keeps (s := { s with replica := s.replica.cut block })
        ha hslave]
      refine Replica.Windowed.clear h.retained ?_
      intro e he
      obtain ⟨hmem, hle⟩ := Replica.mem_cut.mp he
      exact absurd hle (Nat.not_le_of_lt (hnewer e hmem))

theorem rollback_windowed (h : s.replica.Windowed retention)
    (hslave : s.settings.sharesAs .slave = false) (block : Nat) :
    (s.rollback block).1.replica.Windowed retention := by
  cases ha : s.replica.inactive with
  | true =>
      rw [rollback, if_pos ha]
      exact h
  | false =>
      cases hi : s.replica.invalid with
      | true =>
          rw [rollback_of_invalid ha hi]
          exact rollback_windowed_of_invalid h ha hslave block
      | false =>
          rw [rollback_of_valid ha hi]
          refine h.prune rfl ?_ ?_
          · intro e he
            exact (Replica.mem_trim.mp he).1
          · intro hhas e he hp
            exact Replica.mem_trim.mpr ⟨he, Or.inr ⟨hhas, hp⟩⟩

theorem restart_windowed (h : s.replica.Windowed retention)
    (hslave : s.settings.sharesAs .slave = false) (block : Nat) :
    (s.restart block).1.replica.Windowed retention := by
  cases ha : s.replica.inactive with
  | true =>
      rw [restart, if_pos ha]
      exact h
  | false =>
      by_cases hstale : s.replica.hasSnapshot = true ∧ s.replica.pointer < block
      · -- The pointer is before the block, and so is every checkpoint.
        obtain ⟨hhas, hlt⟩ := hstale
        rw [restart_of_stale ha hhas hlt,
          put_none_of_keeps (s := { s with replica := s.replica.since block }) ha hslave]
        refine Replica.Windowed.clear h.retained ?_
        intro e he
        obtain ⟨hmem, hge⟩ := Replica.mem_since.mp he
        have hle := (h.window e hmem).2
        omega
      · have hfresh : s.replica.hasSnapshot = true → block ≤ s.replica.pointer := by
          intro hhas
          exact Nat.le_of_not_lt fun hlt => hstale ⟨hhas, hlt⟩
        rw [restart_of_fresh ha hfresh]
        refine h.prune rfl ?_ ?_
        · intro e he
          exact (Replica.mem_since.mp he).1
        · intro hhas e he hp
          exact Replica.mem_since.mpr ⟨he, hp ▸ hfresh hhas⟩

theorem build_windowed (h : s.replica.Windowed retention) (hbare : s.replica.hasSnapshot = false)
    (world : Surroundings S) (block : Nat) (announced : Bool) :
    (s.build world block announced).subscriber.replica.Windowed retention := by
  rw [build]
  cases world.source block with
  | error e => exact h
  | ok fresh => exact put_first h hbare fresh block

theorem establish_windowed (h : s.replica.Windowed retention)
    (hbare : s.replica.hasSnapshot = false) (world : Surroundings S) (block : Nat)
    (start : Start S) : (s.establish world block start).subscriber.replica.Windowed retention :=
  establish_cases (motive := fun o => o.subscriber.replica.Windowed retention)
    (fun x k _ => put_first h hbare x k)
    (fun announced _ => build_windowed h hbare world block announced) start

theorem heal_windowed (h : s.replica.Windowed retention) (source : Source S) (block : Nat) :
    (s.heal source block).2.1.replica.Windowed retention := by
  rw [heal]
  split
  · exact h
  · rename_i hopen
    have hbare : s.replica.hasSnapshot = false := by
      simp only [healed, Bool.or_eq_true, not_or, Bool.not_eq_true] at hopen
      exact hopen.2
    cases source block with
    | error e => exact h
    | ok fresh => exact put_first h hbare fresh block

/-! ## Runs -/

/-- Whether an action is one of those that keep the window: no second first
snapshot, no write from outside, no record from the cache. -/
def Permits (s : Subscriber S) : Action S → Prop
  | .establish _ _ _ => s.replica.hasSnapshot = false
  | .absorb _ => False
  | .put _ _ => False
  | _ => True

def Orderly (s : Subscriber S) : List (Action S) → Prop
  | [] => True
  | a :: rest => s.Permits a ∧ (s.act a).Orderly rest

theorem act_windowed (h : s.replica.Windowed retention)
    (hslave : s.settings.sharesAs .slave = false) {a : Action S} (ha : s.Permits a) :
    (s.act a).replica.Windowed retention := by
  cases a with
  | establish world block start => exact establish_windowed h ha world block start
  | update b =>
      obtain ⟨r, hr, hsub | hsub⟩ := s.update_evolves b <;> rw [hsub]
      · exact h.evolves hr
      · exact (h.evolves hr).validate
  | absorb found => exact ha.elim
  | heal source block => exact heal_windowed h source block
  | put snapshot block => exact ha.elim
  | rollback block => exact rollback_windowed h hslave block
  | restart block => exact restart_windowed h hslave block
  | invalidate =>
      rw [act, invalidate]
      split
      · exact h
      · exact ⟨h.retained, h.bare, h.pointed, h.window⟩
  | inactivate => exact ⟨h.retained, h.bare, h.pointed, h.window⟩

theorem perform_keeps_window : ∀ {actions : List (Action S)} {s : Subscriber S},
    s.replica.Windowed retention → s.settings.sharesAs .slave = false → s.Orderly actions →
    (s.perform actions).replica.Windowed retention
  | [], _, h, _, _ => h
  | a :: rest, s, h, hslave, horderly => by
      have hsettings : (s.act a).settings = s.settings := ((Alike.refl s).act a).settings
      exact perform_keeps_window (s := s.act a) (act_windowed h hslave horderly.1)
        (hsettings ▸ hslave) horderly.2

/-- The window in every state that a subscriber reaches which is not a slave
that shares: the pointer of a held snapshot has a checkpoint, and no checkpoint
is newer than the pointer or further behind it than the window reaches. Without
a snapshot nothing is kept. -/
theorem perform_windowed (id : Subscription) (venue : Venue S) (settings : Settings)
    (hslave : settings.sharesAs .slave = false) (actions : List (Action S))
    (horderly : (new id venue settings).Orderly actions) :
    let r := ((new id venue settings).perform actions).replica
    (r.hasSnapshot = true → r.history.contains r.pointer = true
        ∧ ∀ block ∈ r.history.blocks,
          r.pointer - settings.retention ≤ block ∧ block ≤ r.pointer)
      ∧ (r.hasSnapshot = false → r.history.isEmpty = true) := by
  intro r
  have h : r.Windowed settings.retention :=
    perform_keeps_window (Replica.Windowed.new settings.retention) hslave horderly
  constructor
  · intro hhas
    refine ⟨BlockMap.contains_iff.mpr (h.pointed hhas), ?_⟩
    intro block hblock
    obtain ⟨e, he, rfl⟩ := List.mem_map.mp hblock
    exact h.window e he
  · intro hbare
    exact List.isEmpty_iff.mpr (List.eq_nil_iff_forall_not_mem.mpr (h.bare hbare))

/-- Blocks 11 and 13 come, then 12; the rollback to block 12 drops 13, and the
restart at block 11 nothing. -/
def reordered : List (Action Counter) :=
  [.establish ⟨fun _ => .ok ⟨0⟩, none, none, .ok ()⟩ 10 (.supplied ⟨4⟩),
    .update (Fork.onelog 11), .update (Fork.onelog 13), .update (Fork.onelog 12),
    .invalidate, .rollback 12, .restart 11]

theorem perform_windowed_reordered :
    let r := ((new ⟨"g", "n"⟩ (Counter.venue 7) { Settings.default with retention := 2 }).perform
      reordered).replica
    r.pointer = 12 ∧ r.history.blocks = [11, 12] ∧ r.history.contains r.pointer = true
      ∧ ∀ block ∈ r.history.blocks, r.pointer - 2 ≤ block ∧ block ≤ r.pointer := by
  have horderly : (new ⟨"g", "n"⟩ (Counter.venue 7)
      { Settings.default with retention := 2 }).Orderly reordered :=
    ⟨rfl, trivial, trivial, trivial, trivial, trivial, trivial, trivial⟩
  have h := perform_windowed ⟨"g", "n"⟩ (Counter.venue 7)
    { Settings.default with retention := 2 } rfl reordered horderly
  exact ⟨rfl, rfl, h.1 rfl⟩

end Subscriber

end ChainReplica
