import ChainReplica.Proofs.Publication
import ChainReplica.Proofs.Reorganization

/-!
# The same batch again

A batch with ascending blocks that went through changes nothing when it comes
again (`Subscriber.update_again`): it goes through again, the subscriber is the
same afterwards, and nothing is asked of the outside world. This holds from
every state with a snapshot, whatever its checkpoints are.

The reason is that a run disturbs the checkpoints before its block in one way
only: the oldest of them may be dropped (`Replica.Trims`). When the run comes
again it finds the base that it had the first time, or none. With the same base
it makes the same snapshot, and this has its checkpoint already, since a window
that reaches the base reaches the block as well (`Replica.take_absorbed`).
-/

namespace ChainReplica

variable {S : Type}

/-! ## What later runs leave of earlier checkpoints -/

/-- Of the checkpoints before block `n`, only the oldest were dropped. -/
structure Replica.Trims (n : Nat) (r q : Replica S) : Prop where
  pointer_le : r.pointer ≤ q.pointer
  kept : ∃ floor, ∀ e : Nat × S, e.1 < n → (e ∈ q.entries ↔ e ∈ r.entries ∧ floor ≤ e.1)

namespace Replica

variable {n block : Nat} {x : S} {r r' q : Replica S} {venue : Venue S} {headers : Headers}

namespace Trims

theorem refl (n : Nat) (r : Replica S) : Trims n r r :=
  ⟨Nat.le_refl _, 0, fun _ _ => (and_iff_left (Nat.zero_le _)).symm⟩

theorem trans (h : Trims n r r') (h' : Trims n r' q) : Trims n r q := by
  obtain ⟨floor, hkept⟩ := h.kept
  obtain ⟨floor', hkept'⟩ := h'.kept
  refine ⟨Nat.le_trans h.pointer_le h'.pointer_le, max floor floor', ?_⟩
  intro e he
  rw [hkept' e he, hkept e he, and_assoc, Nat.max_le]

theorem mono {m : Nat} (h : Trims n r q) (hle : m ≤ n) : Trims m r q := by
  obtain ⟨floor, hkept⟩ := h.kept
  refine ⟨h.pointer_le, floor, ?_⟩
  intro e he
  exact hkept e (Nat.lt_of_lt_of_le he hle)

theorem keep (hn : n ≤ block) : Trims n r (r.keep x block) := by
  unfold Replica.keep
  split
  · rename_i hnewer
    refine ⟨Nat.le_of_lt hnewer, block - r.history.retention, ?_⟩
    intro e he
    have hne : e.1 ≠ block := by omega
    rw [mem_apply]
    constructor
    · rintro ⟨rfl | ⟨hmem, -⟩, hge⟩
      · exact absurd rfl hne
      · exact ⟨hmem, hge⟩
    · rintro ⟨hmem, hge⟩
      exact ⟨Or.inr ⟨hmem, hne⟩, hge⟩
  · refine ⟨Nat.le_refl _, 0, ?_⟩
    intro e he
    have hne : e.1 ≠ block := by omega
    rw [mem_checkpoint]
    constructor
    · rintro (rfl | ⟨hmem, -⟩)
      · exact absurd rfl hne
      · exact ⟨hmem, Nat.zero_le _⟩
    · rintro ⟨hmem, -⟩
      exact Or.inr ⟨hmem, hne⟩

theorem take {run : Run} (hn : n ≤ run.block) (ht : r.take venue headers run = .ok r') :
    Trims n r r' := by
  rcases take_cases ht with rfl | ⟨next, rfl⟩
  · exact refl n r'
  · exact keep hn

/-- Runs of blocks from `n` on drop only the oldest checkpoints before it. -/
theorem replay : ∀ {runs : List Run} {r : Replica S}, (∀ run ∈ runs, n ≤ run.block) →
    r.replay venue headers runs = (q, none) → Trims n r q
  | [], _, _, hq => by
      cases hq
      exact refl n q
  | run :: rest, r, hn, hq => by
      rw [Replica.replay] at hq
      cases ht : r.take venue headers run with
      | error e =>
          rw [ht] at hq
          cases hq
      | ok next =>
          rw [ht] at hq
          have hfirst : Trims n r next := take (hn run List.mem_cons_self) ht
          exact hfirst.trans (replay (fun run' h => hn run' (List.mem_cons_of_mem _ h)) hq)

/-- A base that is left is the base from before, and the window reaches it. -/
theorem latestBefore {base : Nat × S} (h : Trims n r q)
    (hbase : q.history.latestBefore n = some base) :
    r.history.latestBefore n = some base ∧ base ∈ q.entries ∧ base.1 < n := by
  obtain ⟨⟨hmem, hlt⟩, hmax⟩ := History.latestBefore_eq_some_iff.mp hbase
  obtain ⟨floor, hkept⟩ := h.kept
  obtain ⟨hmem', hfloor⟩ := (hkept base hlt).mp hmem
  refine ⟨History.latestBefore_eq_some_iff.mpr ⟨⟨hmem', hlt⟩, ?_⟩, hmem, hlt⟩
  intro e he hen
  by_cases hle : floor ≤ e.1
  · exact hmax e ((hkept e hen).mpr ⟨he, hle⟩) hen
  · omega

end Trims

/-! ## A run that comes again -/

theorem mem_keep : (block, x) ∈ (r.keep x block).entries := by
  unfold keep
  split
  · exact mem_apply_self
  · exact mem_checkpoint.mpr (Or.inl rfl)

theorem le_pointer_keep : block ≤ (r.keep x block).pointer := by
  unfold keep
  split
  · exact Nat.le_refl block
  · rename_i holder
    exact Nat.le_of_not_lt holder

/-- A run that was taken changes nothing when it comes again after runs of newer
blocks. -/
theorem take_absorbed {run : Run} (ht : r.take venue headers run = .ok r')
    (hlater : Trims (run.block + 1) r' q) : q.take venue headers run = .ok q := by
  have hearlier : Trims run.block r q :=
    (Trims.take (Nat.le_refl _) ht).trans (hlater.mono (Nat.le_succ _))
  cases hbase : q.history.latestBefore run.block with
  | none => exact take_of_none hbase
  | some base =>
      obtain ⟨hbase', hmem, hlt⟩ := hearlier.latestBefore hbase
      rw [take_of_base hbase'] at ht
      rw [take_of_base hbase]
      cases hfold : venue.fold base.2 run.logs (headers.get? run.block) with
      | error e =>
          rw [hfold] at ht
          cases ht
      | ok changed =>
          cases changed with
          | none => rfl
          | some next =>
              rw [hfold] at ht
              obtain rfl : r.keep next run.block = r' := Except.ok.inj ht
              obtain ⟨floor, hkept⟩ := hlater.kept
              -- The floor is not above the base, so not above the block either.
              have hfloor : floor ≤ base.1 := ((hkept base (Nat.lt_succ_of_lt hlt)).mp hmem).2
              have hself : (run.block, next) ∈ q.entries :=
                (hkept _ (Nat.lt_succ_self _)).mpr
                  ⟨mem_keep, Nat.le_trans hfloor (Nat.le_of_lt hlt)⟩
              have hpointer : run.block ≤ q.pointer :=
                Nat.le_trans le_pointer_keep hlater.pointer_le
              have hsame : q.keep next run.block = q := by
                rw [keep, if_neg (Nat.not_lt_of_le hpointer), checkpoint_self hself]
              exact congrArg Except.ok hsame

/-! ## A batch that comes again -/

theorem replay_absorbed : ∀ {runs : List Run} {r : Replica S},
    (runs.map (·.block)).Pairwise (· < ·) → r.replay venue headers runs = (q, none) →
    ∀ run ∈ runs, q.take venue headers run = .ok q
  | [], _, _, _ => by
      rintro run ⟨⟩
  | first :: rest, r, hsorted, hq => by
      obtain ⟨hfirst, hrest⟩ := List.pairwise_cons.mp hsorted
      rw [replay] at hq
      cases ht : r.take venue headers first with
      | error e =>
          rw [ht] at hq
          cases hq
      | ok next =>
          rw [ht] at hq
          have hnewer : ∀ run ∈ rest, first.block + 1 ≤ run.block := by
            intro run hrun
            exact hfirst run.block (List.mem_map_of_mem hrun)
          intro run hrun
          rcases List.mem_cons.mp hrun with rfl | hrun
          · exact take_absorbed ht (Trims.replay hnewer hq)
          · exact replay_absorbed hrest hq run hrun

theorem replay_of_absorbed : ∀ {runs : List Run},
    (∀ run ∈ runs, q.take venue headers run = .ok q) →
    q.replay venue headers runs = (q, none) ∧ q.published venue headers runs = []
  | [], _ => ⟨rfl, rfl⟩
  | first :: rest, h => by
      obtain ⟨hreplay, hpublished⟩ :=
        replay_of_absorbed fun run hrun => h run (List.mem_cons_of_mem _ hrun)
      rw [replay, published, h first List.mem_cons_self]
      refine ⟨hreplay, ?_⟩
      change q.moved q ++ q.published venue headers rest = []
      rw [moved_self, hpublished, List.append_nil]

end Replica

namespace Subscriber

/-- A batch with ascending blocks that an update accepted is accepted again, and
changes nothing: neither the subscriber nor the outside world. -/
theorem update_again (s : Subscriber S) (ha : s.replica.inactive = false)
    (hs : s.replica.hasSnapshot = true) (logs : List Log) (headers : Headers)
    (hsorted : ((runs logs).map (·.block)).Pairwise (· < ·)) (source again : Source S)
    (hok : (s.update source logs headers).result = .ok ()) :
    let t := (s.update source logs headers).subscriber
    t.update again logs headers = ⟨t, [], .ok ()⟩ := by
  intro t
  have hheld : s.replica.Holds := ⟨ha, hs⟩
  obtain ⟨haccepts, q, hq⟩ := replayed_of_ok hheld hok
  have ht : t = { s with replica := q.validate } :=
    congrArg Outcome.subscriber (update_of_accepted hheld haccepts hq)
  obtain ⟨hreplay, hpublished⟩ :=
    Replica.replay_of_absorbed (Replica.replay_absorbed hsorted hq)
  have hagain : t.replayed logs headers = (q.validate, none) := by
    rw [replayed, ht]
    change q.validate.replay s.venue headers (runs logs) = _
    rw [Replica.replay_validate, hreplay]
  have hquiet : t.replica.published t.venue headers (runs logs) = [] := by
    rw [ht]
    change q.validate.published s.venue headers (runs logs) = []
    rw [Replica.published_validate, hpublished]
  have htheld : t.replica.Holds := by
    rw [ht]
    exact (hheld.of_replay hq : q.Holds)
  have htaccepts : ¬t.Rejects logs headers := by
    rw [ht]
    exact haccepts
  rw [update_of_accepted htheld htaccepts hagain, hquiet, stores_nil, ht]
  rfl

/-- Blocks 6, 7 and 9 in one batch. A window of two blocks drops the base of
block 6 and that of block 7. -/
theorem update_again_pruned :
    let s := ((new ⟨"g", "n"⟩ (Counter.venue 7)
        { Settings.default with retention := 2, shareCache := true }).establish
      ⟨fun _ => .ok ⟨0⟩, none, none, .ok ()⟩ 5 (.supplied ⟨10⟩)).subscriber
    let logs := (Fork.onelog 6).logs ++ (Fork.onelog 7).logs ++ (Fork.onelog 9).logs
    let first := s.update (fun _ => .ok ⟨0⟩) logs .empty
    first.effects = [.store 6 ⟨11⟩, .store 7 ⟨12⟩, .store 9 ⟨13⟩]
      ∧ first.subscriber.replica.history.blocks = [7, 9]
      ∧ first.subscriber.update (fun _ => .ok ⟨0⟩) logs .empty
        = ⟨first.subscriber, [], .ok ()⟩ := by
  intro s logs first
  have hsorted : ((runs logs).map (·.block)).Pairwise (· < ·) := by decide
  exact ⟨rfl, rfl, update_again s rfl rfl logs .empty hsorted (fun _ => .ok ⟨0⟩)
    (fun _ => .ok ⟨0⟩) rfl⟩

end Subscriber

end ChainReplica
