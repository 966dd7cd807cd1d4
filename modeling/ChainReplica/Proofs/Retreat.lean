import ChainReplica.Proofs.Rollback
import ChainReplica.Venue.Counter

/-!
# Rollbacks and restarts as a whole

What a rollback or a restart leaves of a subscriber is given by the checkpoints it
keeps (`History.only`) and by what becomes of the snapshot: it stays, it gives way to
a checkpoint that is left, or it has to go (`Subscriber.lose`). Which of these it is
depends on validity, pointer and history, in one theorem for all of them
(`Subscriber.rollback_restart_eq`).

Pruning comes in two steps, first against the block of the reorganization and then
against the checkpoint that is written again. The write itself adds nothing to the
history, since the checkpoint is there already (`History.insert_self`).
-/

namespace ChainReplica

variable {S : Type}

/-! ## Histories with checkpoints left out -/

namespace History

variable {h : History S} {block anchor n : Nat} {x : S} {e : Nat × S}

/-- The checkpoints of these blocks, and no others. -/
def only (h : History S) (keep : Nat → Prop) [DecidablePred keep] : History S :=
  ⟨h.checkpoints.filter fun n => decide (keep n), h.retention⟩

theorem mem_only {keep : Nat → Prop} [DecidablePred keep] :
    e ∈ (h.only keep).entries ↔ e ∈ h.entries ∧ keep e.1 := by
  simp [only, entries]

theorem ext_of_mem {h h' : History S} (hentries : ∀ e, e ∈ h.entries ↔ e ∈ h'.entries)
    (hretention : h.retention = h'.retention) : h = h' := by
  obtain ⟨checkpoints, retention⟩ := h
  obtain ⟨checkpoints', retention'⟩ := h'
  obtain rfl : retention = retention' := hretention
  exact congrArg (History.mk · retention) (BlockMap.ext_of_mem hentries)

theorem removeBelow_eq : (h.removeBelow block).2 = h.only (block ≤ ·) :=
  ext_of_mem (fun _ => mem_removeBelow.trans mem_only.symm) rfl

theorem removeAbove_eq : (h.removeAbove block none).2 = h.only (· ≤ block) := by
  refine ext_of_mem (fun e => mem_removeAbove.trans (Iff.trans ?_ mem_only.symm)) rfl
  simp

theorem prune_eq : (h.prune anchor).2 = h.only (anchor - h.retention ≤ ·) := removeBelow_eq

/-- The newest checkpoint up to a block is the greatest of those up to it. -/
theorem latestUpTo_of_max (hmax : (h.only (· ≤ block)).blocks.max? = some n) :
    ∃ x, (h.only (· ≤ block)).get? n = some x ∧ h.latestUpTo block = some (n, x) := by
  obtain ⟨hmem, hgreatest⟩ := List.max?_eq_some_iff.mp hmax
  obtain ⟨⟨m, x⟩, he, rfl⟩ := List.mem_map.mp hmem
  obtain ⟨hentry, hle⟩ := mem_only.mp he
  refine ⟨x, BlockMap.get?_eq_some_iff.mpr he, latestUpTo_eq_some_iff.mpr ⟨⟨hentry, hle⟩, ?_⟩⟩
  intro e' he' hle'
  exact hgreatest e'.1 (List.mem_map_of_mem (mem_only.mpr ⟨he', hle'⟩))

theorem only_of_max_none (hmax : (h.only (· ≤ block)).blocks.max? = none) :
    h.only (· ≤ block) = .new h.retention ∧ h.latestUpTo block = none := by
  have hnone : (h.only (· ≤ block)).entries = [] :=
    List.map_eq_nil_iff.mp (List.max?_eq_none_iff.mp hmax)
  refine ⟨ext_of_mem (fun e => by rw [hnone]; rfl) rfl, latestUpTo_eq_none_iff.mpr ?_⟩
  intro e he
  refine Nat.lt_of_not_le fun hle => ?_
  have hmem : e ∈ (h.only (· ≤ block)).entries := mem_only.mpr ⟨he, hle⟩
  rw [hnone] at hmem
  cases hmem

end History

namespace Replica

variable {r : Replica S} {block k : Nat} {x : S}

/-- Writing a checkpoint again only prunes the history against it. -/
theorem apply_again (hx : (k, x) ∈ r.entries) : r.apply (some x) k =
    { r with
      history := r.history.only (k - r.history.retention ≤ ·)
      current := some x
      pointer := k
      invalid := false } := by
  rw [apply, History.insert_self hx, History.prune_eq]

theorem removeAbove_kept : (r.history.removeAbove block (r.current.map fun _ => r.pointer)).2 =
    r.history.only fun n => n ≤ block ∨ (r.hasSnapshot = true ∧ n = r.pointer) := by
  refine History.ext_of_mem (fun e => History.mem_removeAbove.trans ?_) rfl
  rw [History.mem_only, hasSnapshot]
  cases r.current <;> simp [eq_comm]

end Replica

namespace Subscriber

variable {s : Subscriber S} {block k : Nat} {x : S}

/-- Does without the snapshot: it is dropped, or it is kept until the cache has been
asked for another one. -/
def lose (s : Subscriber S) (block : Nat) : Subscriber S × List (Effect S) :=
  if s.settings.sharesAs .slave then
    ({ s with refreshing := true }, [if s.refreshing then .coalesce else .refresh])
  else ({ s with replica := { s.replica with current := none, pointer := block } }, [])

theorem put_none_eq (ha : s.replica.inactive = false) : s.put none block = s.lose block := by
  rw [put, if_neg (by simp [ha]), lose, requestRefresh]
  cases hwaiting : s.refreshing with
  | false => rfl
  | true =>
      -- The request is merged, and the subscriber stays as it is.
      have hsame : { s with refreshing := true } = s := by rw [← hwaiting]
      rw [hsame]
      rfl

/-- With these checkpoints, and no others. -/
def only (s : Subscriber S) (keep : Nat → Prop) [DecidablePred keep] : Subscriber S :=
  { s with replica := { s.replica with history := s.replica.history.only keep } }

theorem rollback_valid (ha : s.replica.inactive = false) (hvalid : s.replica.invalid = false) :
    s.rollback block =
      (s.only fun n => n ≤ block ∨ (s.replica.hasSnapshot = true ∧ n = s.replica.pointer), []) := by
  simp [rollback, Replica.rollback, rewind, ha, hvalid, Replica.removeAbove_kept, only]

/-- An untrusted snapshot gives way to the newest checkpoint that is left. -/
theorem rollback_untrusted (ha : s.replica.inactive = false)
    (hinvalid : s.replica.invalid = true) : s.rollback block =
      match s.replica.history.latestUpTo block with
      | some (k, x) => (s.only (· ≤ block)).put (some x) k
      | none => (s.only (· ≤ block)).lose block := by
  -- What is cut off is newer than the checkpoint that is looked for.
  have hleft : (s.replica.history.only (· ≤ block)).latestUpTo block =
      s.replica.history.latestUpTo block := by
    rw [← History.removeAbove_eq]
    exact Replica.latestUpTo_cut
  rw [rollback, if_neg (by simp [ha]), Replica.rollback, if_pos hinvalid]
  simp only [History.removeAbove_eq, hleft]
  cases s.replica.history.latestUpTo block with
  | none => exact put_none_eq (s := s.only (· ≤ block)) ha
  | some e => rfl

theorem put_again (ha : s.replica.inactive = false) (hx : (k, x) ∈ s.replica.entries) :
    s.put (some x) k =
      ({ s with replica := { s.replica with
          history := s.replica.history.only (k - s.replica.history.retention ≤ ·)
          current := some x
          pointer := k
          invalid := false } }, if s.settings.sharesAs .master then [.store k x] else []) := by
  rw [put, if_neg (by simp [ha])]
  simp only [Replica.apply_again hx]

theorem restart_eq (ha : s.replica.inactive = false) : s.restart block =
    if s.replica.hasSnapshot = true ∧ s.replica.pointer < block then
      (s.only (block ≤ ·)).lose block
    else (s.only (block ≤ ·), []) := by
  rw [restart, if_neg (by simp [ha])]
  simp only [Replica.restart, History.removeBelow_eq, Bool.and_eq_true, decide_eq_true_eq]
  split
  · exact put_none_eq ha
  · rfl

/-- Everything a rollback and a restart do. -/
theorem rollback_restart_eq (s : Subscriber S) (ha : s.replica.inactive = false) (block : Nat) :
    let held := s.replica.hasSnapshot
    let pointer := s.replica.pointer
    let retention := s.replica.history.retention
    let left := s.replica.history.only (· ≤ block)
    (s.replica.invalid = false →
        s.rollback block = (s.only fun n => n ≤ block ∨ (held = true ∧ n = pointer), []))
      ∧ (s.replica.invalid = true → ∀ k, left.blocks.max? = some k → ∃ x, left.get? k = some x
        ∧ s.rollback block =
          ({ s with replica := { s.replica with
              history := left.only (k - retention ≤ ·)
              current := some x
              pointer := k
              invalid := false } }, if s.settings.sharesAs .master then [.store k x] else []))
      ∧ (s.replica.invalid = true → left.blocks.max? = none → s.rollback block =
        ({ s with replica := { s.replica with history := .new retention } }).lose block)
      ∧ s.restart block = if held = true ∧ pointer < block then (s.only (block ≤ ·)).lose block
        else (s.only (block ≤ ·), []) := by
  intro held pointer retention left
  refine ⟨rollback_valid ha, ?_, ?_, restart_eq ha⟩
  · intro hinvalid k hmax
    obtain ⟨x, hx, hlatest⟩ := History.latestUpTo_of_max hmax
    refine ⟨x, hx, ?_⟩
    rw [rollback_untrusted ha hinvalid, hlatest]
    exact put_again (s := s.only (· ≤ block)) ha (BlockMap.get?_eq_some_iff.mp hx)
  · intro hinvalid hmax
    obtain ⟨hempty, hlatest⟩ := History.only_of_max_none hmax
    rw [rollback_untrusted ha hinvalid, hlatest]
    simp only [only, hempty]
    rfl

/-- The snapshot of block 9 is held, and there is a newer checkpoint: back to 8, untrusted
and trusted, back to 3, and a start from 10 on, which a slave answers with a refresh. -/
theorem rollback_restart_counted :
    let s : Subscriber Counter :=
      { new ⟨"g", "n"⟩ (Counter.venue 7) { Settings.default with shareCache := true } with
        replica := ⟨⟨.ofList [(4, ⟨1⟩), (7, ⟨2⟩), (9, ⟨3⟩), (12, ⟨4⟩)], 2⟩, some ⟨3⟩, 9, true,
          false⟩ }
    let trusted : Subscriber Counter := { s with replica := s.replica.validate }
    let slave : Subscriber Counter := { s with settings := { s.settings with role := .slave } }
    s.rollback 8 = ({ s with replica :=
        ⟨⟨.ofList [(7, ⟨2⟩)], 2⟩, some ⟨2⟩, 7, false, false⟩ }, [.store 7 ⟨2⟩])
      ∧ trusted.rollback 8 = ({ trusted with replica :=
        ⟨⟨.ofList [(4, ⟨1⟩), (7, ⟨2⟩), (9, ⟨3⟩)], 2⟩, some ⟨3⟩, 9, false, false⟩ }, [])
      ∧ s.rollback 3 = ({ s with replica := ⟨.new 2, none, 3, true, false⟩ }, [])
      ∧ slave.restart 10 = ({ slave with
          replica := ⟨⟨.ofList [(12, ⟨4⟩)], 2⟩, some ⟨3⟩, 9, true, false⟩
          refreshing := true }, [.refresh]) := by
  intro s trusted slave
  obtain ⟨-, hback, -, -⟩ := rollback_restart_eq s rfl 8
  obtain ⟨hvalid, -, -, -⟩ := rollback_restart_eq trusted rfl 8
  obtain ⟨-, -, hgone, -⟩ := rollback_restart_eq s rfl 3
  obtain ⟨-, -, -, hrestart⟩ := rollback_restart_eq slave rfl 10
  obtain ⟨x, hx, hrollback⟩ := hback rfl 7 rfl
  obtain rfl : x = ⟨2⟩ := (Option.some.inj hx).symm
  exact ⟨hrollback.trans rfl, (hvalid rfl).trans rfl, (hgone rfl rfl).trans rfl,
    hrestart.trans rfl⟩

end Subscriber

end ChainReplica
