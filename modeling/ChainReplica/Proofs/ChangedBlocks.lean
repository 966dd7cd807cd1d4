import Mathlib.Order.Bounds.Basic
import ChainReplica.Proofs.Requests
import ChainReplica.Venue.Journal

/-!
# What a batch changes, and what it leaves

Of the runs of a batch only those count whose logs are folded to a changed
snapshot (`Replica.Changes`). They move the pointer to the greatest of their
blocks, if that is newer, and everything else is left alone: the current
snapshot unless the pointer moved, and the checkpoints of all other blocks but
those that the window left behind (`Subscriber.update_frame`).

Nothing is assumed about the batch. Its blocks may come in any order and more
than once, and a failure of the venue may end it anywhere. What is said of a
replica before and after (`Replica.Framed`) holds for one run and is closed
under one part after the other.
-/

namespace ChainReplica

variable {S : Type}

/-! ## Changed snapshots -/

namespace Replica

variable {r r' : Replica S} {venue : Venue S} {headers : Headers} {run : Run} {rest : List Run}
  {block : Nat} {x y : S}

/-- The logs of a run are folded to a changed snapshot. -/
def Yields (venue : Venue S) (headers : Headers) (r : Replica S) (run : Run) (next : S) : Prop :=
  ∃ base, r.history.latestBefore run.block = some base
    ∧ venue.fold base.2 run.logs (headers.get? run.block) = .ok (some next)

/-- While runs are taken one after the other, up to a failure, one of the block
is folded to a changed snapshot. -/
def Changes (venue : Venue S) (headers : Headers) (r : Replica S) : List Run → Nat → S → Prop
  | [], _, _ => False
  | run :: rest, block, next => (block = run.block ∧ r.Yields venue headers run next)
      ∨ ∃ r', r.take venue headers run = .ok r' ∧ Changes venue headers r' rest block next

theorem Yields.take (h : r.Yields venue headers run x) :
    r.take venue headers run = .ok (r.keep x run.block) := by
  obtain ⟨base, hbase, hfold⟩ := h
  rw [take_of_base hbase, hfold]
  rfl

theorem Yields.eq (h : r.Yields venue headers run x) (h' : r.Yields venue headers run y) :
    x = y := by
  obtain ⟨base, hbase, hfold⟩ := h
  obtain ⟨base', hbase', hfold'⟩ := h'
  obtain rfl : base = base' := Option.some.inj (hbase.symm.trans hbase')
  rw [hfold] at hfold'
  exact Option.some.inj (Except.ok.inj hfold')

theorem yields_or_idle (h : r.take venue headers run = .ok r') :
    (∃ x, r.Yields venue headers run x ∧ r' = r.keep x run.block)
      ∨ ((∀ x, ¬r.Yields venue headers run x) ∧ r' = r) := by
  cases hbase : r.history.latestBefore run.block with
  | none =>
      rw [take_of_none hbase] at h
      refine Or.inr ⟨?_, (Except.ok.inj h).symm⟩
      rintro x ⟨base, hsome, -⟩
      rw [hbase] at hsome
      cases hsome
  | some base =>
      rw [take_of_base hbase] at h
      cases hfold : venue.fold base.2 run.logs (headers.get? run.block) with
      | error e =>
          rw [hfold] at h
          cases h
      | ok changed =>
          rw [hfold] at h
          cases changed with
          | some x => exact Or.inl ⟨x, ⟨base, hbase, hfold⟩, (Except.ok.inj h).symm⟩
          | none =>
              refine Or.inr ⟨?_, (Except.ok.inj h).symm⟩
              rintro x ⟨base', hbase', hfold'⟩
              obtain rfl : base = base' := Option.some.inj (hbase.symm.trans hbase')
              rw [hfold] at hfold'
              cases hfold'

theorem changes_of_failure {e : Failure} (h : r.take venue headers run = .error e) :
    ¬r.Changes venue headers (run :: rest) block x := by
  rintro (⟨-, hyields⟩ | ⟨r', htake, -⟩)
  · rw [hyields.take] at h
    cases h
  · rw [htake] at h
    cases h

theorem changes_of_idle (h : r.take venue headers run = .ok r)
    (hidle : ∀ x, ¬r.Yields venue headers run x) :
    r.Changes venue headers (run :: rest) block x ↔ r.Changes venue headers rest block x := by
  constructor
  · rintro (⟨-, hyields⟩ | ⟨r', htake, hlater⟩)
    · exact absurd hyields (hidle x)
    · rw [h] at htake
      cases htake
      exact hlater
  · intro hlater
    exact Or.inr ⟨r, h, hlater⟩

theorem changes_of_yields (h : r.Yields venue headers run y) :
    r.Changes venue headers (run :: rest) block x ↔ (block = run.block ∧ x = y)
      ∨ (r.keep y run.block).Changes venue headers rest block x := by
  constructor
  · rintro (⟨hblock, hyields⟩ | ⟨r', htake, hlater⟩)
    · exact Or.inl ⟨hblock, hyields.eq h⟩
    · rw [h.take] at htake
      cases htake
      exact Or.inr hlater
  · rintro (⟨hblock, rfl⟩ | hlater)
    · exact Or.inl ⟨hblock, h⟩
    · exact Or.inr ⟨_, h.take, hlater⟩

theorem Changes.mem : ∀ {runs : List Run} {r : Replica S}, r.Changes venue headers runs block x →
    block ∈ runs.map (·.block)
  | [], _, h => h.elim
  | run :: rest, r, h => by
      rw [List.map_cons, List.mem_cons]
      rcases h with ⟨hblock, -⟩ | ⟨r', -, hlater⟩
      · exact Or.inl hblock
      · exact Or.inr hlater.mem

/-! ## Before and after -/

theorem get?_keep (hne : block ≠ run.block) :
    (r.keep x run.block).history.get? block =
      if r.pointer < run.block ∧ block < run.block - r.history.retention then none
      else r.history.get? block := by
  rw [keep]
  split
  · rename_i hnewer
    change ((r.history.insert run.block x).prune run.block).2.get? block = _
    rw [History.get?_prune, History.get?_insert_of_ne hne]
    change (if run.block - r.history.retention ≤ block then _ else _) = _
    by_cases hkept : run.block - r.history.retention ≤ block
    · rw [if_pos hkept, if_neg fun h => Nat.not_lt_of_le hkept h.2]
    · rw [if_neg hkept, if_pos ⟨hnewer, Nat.lt_of_not_le hkept⟩]
  · rename_i holder
    rw [if_neg fun h => holder h.1]
    exact History.get?_insert_of_ne hne

/-- What became of a replica while the blocks that are `changed` were changed. -/
structure Framed (changed : Nat → Prop) (r q : Replica S) : Prop where
  le : r.pointer ≤ q.pointer
  reached : q.pointer = r.pointer ∨ changed q.pointer
  bound : ∀ block, changed block → block ≤ q.pointer
  current : q.pointer = r.pointer → q.current = r.current
  retention : q.history.retention = r.history.retention
  kept : ∀ block, ¬changed block → q.history.get? block =
    if r.pointer < q.pointer ∧ block < q.pointer - r.history.retention then none
    else r.history.get? block

namespace Framed

variable {changed changed' : Nat → Prop} {q : Replica S}

theorem refl (r : Replica S) (h : ∀ block, ¬changed block) : Framed changed r r where
  le := Nat.le_refl _
  reached := Or.inl rfl
  bound := by
    intro block hblock
    exact absurd hblock (h block)
  current _ := rfl
  retention := rfl
  kept := by
    intro block _
    rw [if_neg fun hmoved => Nat.lt_irrefl _ hmoved.1]

theorem keep (r : Replica S) (x : S) (run : Run) :
    Framed (· = run.block) r (r.keep x run.block) := by
  have hkept : ∀ block, block ≠ run.block → (r.keep x run.block).history.get? block =
      if r.pointer < run.block ∧ block < run.block - r.history.retention then none
      else r.history.get? block := fun block => get?_keep
  unfold Replica.keep at hkept ⊢
  split at hkept
  · rename_i hnewer
    rw [if_pos hnewer]
    refine ⟨Nat.le_of_lt hnewer, Or.inr rfl, ?_, ?_, rfl, hkept⟩
    · rintro block rfl
      exact Nat.le_refl _
    · intro hsame
      exact absurd hsame (Nat.ne_of_gt hnewer)
  · rename_i holder
    rw [if_neg holder]
    refine ⟨Nat.le_refl _, Or.inl rfl, ?_, fun _ => rfl, rfl, ?_⟩
    · rintro block rfl
      exact Nat.le_of_not_lt holder
    · intro block hne
      rw [hkept block hne, if_neg fun h => holder h.1, if_neg fun h => Nat.lt_irrefl _ h.1]

theorem congr (h : Framed changed r q) (heq : ∀ block, changed block ↔ changed' block) :
    Framed changed' r q := by
  obtain rfl : changed = changed' := funext fun block => propext (heq block)
  exact h

theorem trans (h : Framed changed r r') (h' : Framed changed' r' q) :
    Framed (fun block => changed block ∨ changed' block) r q where
  le := Nat.le_trans h.le h'.le
  reached := by
    rcases h'.reached with hsame | hchanged
    · rw [hsame]
      exact h.reached.imp_right Or.inl
    · exact Or.inr (Or.inr hchanged)
  bound := by
    rintro block (hblock | hblock)
    · exact Nat.le_trans (h.bound block hblock) h'.le
    · exact h'.bound block hblock
  current := by
    intro hsame
    have hle := h.le
    have hle' := h'.le
    rw [h'.current (by omega), h.current (by omega)]
  retention := h'.retention.trans h.retention
  kept := by
    intro block hblock
    have hle := h.le
    have hle' := h'.le
    rw [h'.kept block fun hb => hblock (Or.inr hb), h.kept block fun hb => hblock (Or.inl hb),
      h.retention]
    -- What the first part dropped is below the window of the last pointer too.
    by_cases hdropped : r.pointer < q.pointer ∧ block < q.pointer - r.history.retention
    · rw [if_pos hdropped]
      by_cases hlast : r'.pointer < q.pointer
      · exact if_pos ⟨hlast, hdropped.2⟩
      · rw [if_neg fun hb => hlast hb.1]
        exact if_pos (by omega)
    · rw [if_neg hdropped, if_neg (by omega), if_neg (by omega)]

theorem replay : ∀ (runs : List Run) (r : Replica S),
    Framed (fun block => ∃ x, r.Changes venue headers runs block x) r
      (r.replay venue headers runs).1
  | [], r => by
      apply refl
      rintro block ⟨x, ⟨⟩⟩
  | run :: rest, r => by
      rw [Replica.replay]
      cases ht : r.take venue headers run with
      | error e =>
          apply refl
          rintro block ⟨x, hx⟩
          exact changes_of_failure ht hx
      | ok r' =>
          have hrest := replay rest r'
          rcases yields_or_idle ht with ⟨x, hyields, rfl⟩ | ⟨hidle, rfl⟩
          · refine ((keep r x run).trans hrest).congr ?_
            intro block
            simp only [changes_of_yields hyields, exists_or, exists_and_left, exists_eq, and_true]
          · refine hrest.congr ?_
            intro block
            simp only [changes_of_idle ht hidle]

theorem settle {result : Replica S × Option Failure} (h : Framed changed r result.1) :
    Framed changed r (Replica.settle result) := by
  obtain ⟨q, failure⟩ := result
  cases failure with
  | some e => exact h
  | none => exact ⟨h.le, h.reached, h.bound, h.current, h.retention, h.kept⟩

end Framed

end Replica

/-! ## Updates -/

namespace Subscriber

/-- While a batch is applied, a run of the block is folded to a changed snapshot. -/
def Changes (s : Subscriber S) (logs : List Log) (headers : Headers) (block : Nat) (next : S) :
    Prop :=
  ¬s.Rejects logs headers ∧ s.replica.Changes s.venue headers (runs logs) block next

theorem update_framed {s : Subscriber S} (h : s.replica.Holds) (source : Source S)
    (logs : List Log) (headers : Headers) :
    s.replica.Framed (fun block => ∃ x, s.Changes logs headers block x)
      (s.update source logs headers).subscriber.replica := by
  rw [update_held h]
  split
  · rename_i hrejects
    apply Replica.Framed.refl
    rintro block ⟨x, haccepts, -⟩
    exact haccepts hrejects
  · rename_i haccepts
    refine ((Replica.Framed.replay (runs logs) s.replica).settle).congr ?_
    intro block
    simp only [Changes, haccepts, not_false_eq_true, true_and]

/-- What an update does to the pointer and to the snapshots that are held, and
what it leaves. -/
theorem update_frame (s : Subscriber S) (ha : s.replica.inactive = false)
    (hs : s.replica.hasSnapshot = true) (source : Source S) (logs : List Log)
    (headers : Headers) :
    let r := s.replica
    let q := (s.update source logs headers).subscriber.replica
    let changed (block : Nat) : Prop := ∃ x, s.Changes logs headers block x
    IsGreatest (insert r.pointer {block | changed block}) q.pointer
      ∧ (r.pointer < q.pointer ∨ q.current = r.current)
      ∧ q.hasSnapshot = true
      ∧ ∀ block, ¬changed block → q.history.get? block =
        if r.pointer < q.pointer ∧ block < q.pointer - r.history.retention then none
        else r.history.get? block := by
  intro r q changed
  have hframed : r.Framed changed q := update_framed ⟨ha, hs⟩ source logs headers
  have hheld : q.Holds := update_holds ⟨ha, hs⟩ source
  refine ⟨⟨hframed.reached, ?_⟩, ?_, hheld.2, hframed.kept⟩
  · rintro block (rfl | hblock)
    · exact hframed.le
    · exact hframed.bound block hblock
  · rcases Nat.lt_or_eq_of_le hframed.le with hmoved | hsame
    · exact Or.inl hmoved
    · exact Or.inr (hframed.current hsame.symm)

/-- Blocks 9, 6, 12, 6 and 13 with a window of four blocks. The second run of
block 6 has no base left, and the failure in block 13 ends the batch. -/
theorem update_frame_broken_off :
    let s := ((new ⟨"g", "n"⟩ (Journal.venue 7 (some 8) false)
        { Settings.default with retention := 4 }).establish
      ⟨fun _ => .ok ⟨[]⟩, none, none, .ok ()⟩ 5 (.supplied ⟨["first"]⟩)).subscriber
    let logs : List Log := [⟨7, [], [], some 9, some 0⟩, ⟨7, [], [], some 6, some 0⟩,
      ⟨7, [], [], some 12, some 0⟩, ⟨7, [], [], some 6, some 1⟩, ⟨7, [], [], some 13, some 8⟩]
    let o := s.update (fun _ => .ok ⟨[]⟩) logs .empty
    s.replica.history.get? 5 = some ⟨["first"]⟩
      ∧ o.result = .error (.plain .processing "poisoned log")
      ∧ o.subscriber.replica.pointer = 12 ∧ o.subscriber.replica.history.blocks = [9, 12]
      ∧ o.subscriber.replica.history.get? 5 = none := by
  intro s logs o
  have hno : ¬∃ x, s.Changes logs .empty 5 x := by
    rintro ⟨x, -, hx⟩
    exact absurd hx.mem (by decide)
  have hkept := (update_frame s rfl rfl (fun _ => .ok ⟨[]⟩) logs .empty).2.2.2 5 hno
  have hpointer : o.subscriber.replica.pointer = 12 := rfl
  have hdropped : s.replica.pointer < o.subscriber.replica.pointer
      ∧ 5 < o.subscriber.replica.pointer - s.replica.history.retention := by
    rw [hpointer]
    exact ⟨by decide, by decide⟩
  rw [if_pos hdropped] at hkept
  exact ⟨rfl, rfl, hpointer, rfl, hkept⟩

end Subscriber

end ChainReplica
