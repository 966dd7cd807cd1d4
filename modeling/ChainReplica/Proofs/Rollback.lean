import ChainReplica.Proofs.Checkpoints
import ChainReplica.Subscriber.Basic

/-!
# Rollbacks and restarts

What is left after `invalidate` and `rollback`: the replica is cut off after the
block (`Replica.cut`), and the newest checkpoint that is left is written again.
With no checkpoint left the snapshot goes, except on a slave that shares, which
keeps it until the cache answers.

A rollback of a trusted snapshot only drops checkpoints (`Replica.trim`), and so
does a restart (`Replica.since`), unless the snapshot is older than its block.
-/

namespace ChainReplica

variable {S : Type}

/-! ## Cutting off the checkpoints after a block -/

namespace Replica

variable {r : Replica S} {block : Nat} {e : Nat × S}

/-- The replica without the checkpoints after a block, and not trusted. -/
def cut (r : Replica S) (block : Nat) : Replica S :=
  { r.invalidate with history := (r.history.removeAbove block none).2 }

theorem mem_cut : e ∈ (r.cut block).entries ↔ e ∈ r.entries ∧ e.1 ≤ block := by
  refine History.mem_removeAbove.trans (and_congr_right fun _ => ?_)
  simp

theorem latestUpTo_cut : (r.cut block).history.latestUpTo block = r.history.latestUpTo block := by
  cases h : r.history.latestUpTo block with
  | none =>
      have hnewer := History.latestUpTo_eq_none_iff.mp h
      exact History.latestUpTo_eq_none_iff.mpr fun e he => hnewer e (mem_cut.mp he).1
  | some e =>
      obtain ⟨⟨he, hle⟩, hmax⟩ := History.latestUpTo_eq_some_iff.mp h
      refine History.latestUpTo_eq_some_iff.mpr ⟨⟨mem_cut.mpr ⟨he, hle⟩, hle⟩, ?_⟩
      exact fun e' he' hle' => hmax e' (mem_cut.mp he').1 hle'

end Replica

/-! ## The rollback -/

namespace Subscriber

variable {s : Subscriber S} {block c : Nat} {x : S}

/-- With a checkpoint up to the block, the newest one is written again. -/
theorem rollback_of_some (ha : s.replica.inactive = false)
    (hc : s.replica.history.latestUpTo block = some (c, x)) :
    (s.invalidate.rollback block).1 =
      { s with replica := (s.replica.cut block).apply (some x) c } := by
  have hcut : (s.replica.history.removeAbove block none).2.latestUpTo block = some (c, x) :=
    Replica.latestUpTo_cut.trans hc
  simp [invalidate, rollback, Replica.rollback, Replica.invalidate, rewind, put, Replica.cut,
    ha, hcut]

/-- Without one, the snapshot is dropped. -/
theorem rollback_of_none (ha : s.replica.inactive = false)
    (hc : s.replica.history.latestUpTo block = none) :
    (s.invalidate.rollback block).1 =
      ({ s with replica := s.replica.cut block }.put none block).1 := by
  have hcut : (s.replica.history.removeAbove block none).2.latestUpTo block = none :=
    Replica.latestUpTo_cut.trans hc
  simp [invalidate, rollback, Replica.rollback, Replica.invalidate, rewind, Replica.cut,
    ha, hcut]

end Subscriber

/-! ## Rollbacks of a trusted snapshot -/

namespace Replica

variable {r : Replica S} {block : Nat} {e : Nat × S}

/-- The replica without the checkpoints after a block, but for that of a held
snapshot. -/
def trim (r : Replica S) (block : Nat) : Replica S :=
  { r with history := (r.history.removeAbove block (r.current.map fun _ => r.pointer)).2 }

/-- The replica without the checkpoints before a block. -/
def since (r : Replica S) (block : Nat) : Replica S :=
  { r with history := (r.history.removeBelow block).2 }

theorem mem_trim : e ∈ (r.trim block).entries ↔
    e ∈ r.entries ∧ (e.1 ≤ block ∨ (r.hasSnapshot = true ∧ e.1 = r.pointer)) := by
  refine History.mem_removeAbove.trans (and_congr_right fun _ => or_congr_right ?_)
  rw [hasSnapshot]
  cases r.current with
  | none => simp
  | some x => simp [eq_comm]

theorem mem_since : e ∈ (r.since block).entries ↔ e ∈ r.entries ∧ block ≤ e.1 :=
  History.mem_removeBelow

end Replica

namespace Subscriber

variable {s : Subscriber S} {block : Nat}

theorem rollback_of_valid (ha : s.replica.inactive = false) (hvalid : s.replica.invalid = false) :
    (s.rollback block).1 = { s with replica := s.replica.trim block } := by
  simp [rollback, Replica.rollback, rewind, Replica.trim, ha, hvalid]

theorem rollback_of_invalid (ha : s.replica.inactive = false)
    (hinvalid : s.replica.invalid = true) :
    s.rollback block = s.invalidate.rollback block := by
  have hsame : s.invalidate = s := by
    rw [invalidate, if_neg (by simp [ha]), Replica.invalidate, ← hinvalid]
  rw [hsame]

/-! ## Restarts -/

theorem restart_of_stale (ha : s.replica.inactive = false) (hhas : s.replica.hasSnapshot = true)
    (hstale : s.replica.pointer < block) :
    (s.restart block).1 = ({ s with replica := s.replica.since block }.put none block).1 := by
  simp [restart, Replica.restart, rewind, Replica.since, ha, hhas, hstale]

theorem restart_of_fresh (ha : s.replica.inactive = false)
    (hfresh : s.replica.hasSnapshot = true → block ≤ s.replica.pointer) :
    (s.restart block).1 = { s with replica := s.replica.since block } := by
  cases hhas : s.replica.hasSnapshot with
  | false => simp [restart, Replica.restart, rewind, Replica.since, ha, hhas]
  | true =>
      simp [restart, Replica.restart, rewind, Replica.since, ha, hhas,
        Nat.not_lt_of_le (hfresh hhas)]

end Subscriber

end ChainReplica
