import ChainReplica.Proofs.ChangedBlocks
import ChainReplica.Proofs.Publication
import ChainReplica.Proofs.Runs

/-!
# Batches that a failure breaks off

A lenient update of a held snapshot fails if and only if the logs of some run
cannot be folded onto their base, and then with the failure of the first such run
(`Subscriber.update_error_iff`). What it leaves is what the runs before that one
leave, as if the batch had ended there (`Subscriber.update_broken_off`): the same
checkpoints, snapshot and pointer, the same snapshots published, and nothing else
asked for. The part of the batch in front of it is such a shorter batch. So are the
logs of these runs alone, unless a log without block number kept two runs of one
block apart.

One thing is missing at the early end: the snapshot is not trusted again. It is
trusted only if a run before the failure wrote a new one (`Replica.invalid_replay`).
-/

namespace ChainReplica

variable {S : Type}

namespace Replica

variable {r q : Replica S} {venue : Venue S} {headers : Headers} {k : Nat} {e : Failure}

/-- While runs are taken in order, the one at the index is the first whose logs
cannot be folded. -/
def FailsAt (venue : Venue S) (headers : Headers) (e : Failure) (r : Replica S) :
    List Run → Nat → Prop
  | [], _ => False
  | run :: _, 0 => ∃ base, r.history.latestBefore run.block = some base
      ∧ venue.fold base.2 run.logs (headers.get? run.block) = .error e
  | run :: rest, k + 1 => ∃ r', r.take venue headers run = .ok r'
      ∧ FailsAt venue headers e r' rest k

theorem take_eq_error_iff {run : Run} : r.take venue headers run = .error e ↔
    ∃ base, r.history.latestBefore run.block = some base
      ∧ venue.fold base.2 run.logs (headers.get? run.block) = .error e := by
  cases hbase : r.history.latestBefore run.block with
  | none => simp [take_of_none hbase]
  | some base =>
      rw [take_of_base hbase]
      cases hfold : venue.fold base.2 run.logs (headers.get? run.block) <;>
        simp [Except.map, hfold]

/-- Up to the failure, and no further. -/
theorem FailsAt.replay : ∀ {runs : List Run} {k : Nat} {r : Replica S},
    r.FailsAt venue headers e runs k → ∃ q,
      r.replay venue headers (runs.take k) = (q, none)
        ∧ r.replay venue headers runs = (q, some e)
        ∧ r.published venue headers runs = r.published venue headers (runs.take k)
  | run :: rest, 0, r, h => by
      have ht : r.take venue headers run = .error e := take_eq_error_iff.mpr h
      refine ⟨r, rfl, ?_, ?_⟩
      · rw [Replica.replay, ht]
      · rw [published, ht]
        rfl
  | run :: rest, k + 1, r, h => by
      obtain ⟨r', ht, hlater⟩ := h
      obtain ⟨q, hfront, hwhole, hpublished⟩ := hlater.replay
      refine ⟨q, ?_, ?_, ?_⟩
      · simpa only [List.take_succ_cons, Replica.replay, ht] using hfront
      · simpa only [Replica.replay, ht] using hwhole
      · simp only [List.take_succ_cons, published, ht, hpublished]

theorem replay_failure_iff : ∀ {runs : List Run} {r : Replica S},
    (r.replay venue headers runs).2 = some e ↔ ∃ k, r.FailsAt venue headers e runs k
  | [], r => by simp [Replica.replay, FailsAt]
  | run :: rest, r => by
      constructor
      · intro h
        rw [Replica.replay] at h
        cases ht : r.take venue headers run with
        | error e' =>
            rw [ht] at h
            obtain rfl : e' = e := Option.some.inj h
            exact ⟨0, take_eq_error_iff.mp ht⟩
        | ok r' =>
            rw [ht] at h
            obtain ⟨k, hk⟩ := replay_failure_iff.mp h
            exact ⟨k + 1, r', ht, hk⟩
      · rintro ⟨k, hk⟩
        obtain ⟨q, -, hwhole, -⟩ := hk.replay
        rw [hwhole]

/-- Runs make a snapshot trusted by writing a new one, and in no other way. -/
theorem invalid_replay : ∀ (runs : List Run) (r : Replica S),
    (r.replay venue headers runs).1.invalid =
      if r.pointer < (r.replay venue headers runs).1.pointer then false else r.invalid
  | [], r => by simp [Replica.replay]
  | run :: rest, r => by
      rw [Replica.replay]
      cases ht : r.take venue headers run with
      | error e => simp
      | ok r' =>
          have ih := invalid_replay rest r'
          rcases take_cases ht with rfl | ⟨x, rfl⟩
          · exact ih
          · by_cases hnewer : r.pointer < run.block
            · rw [keep, if_pos hnewer] at ih ⊢
              have hle : run.block ≤
                  ((r.apply (some x) run.block).replay venue headers rest).1.pointer :=
                (Framed.replay rest (r.apply (some x) run.block)).le
              rw [ih, if_pos (Nat.lt_of_lt_of_le hnewer hle)]
              exact ite_self false
            · rw [keep, if_neg hnewer] at ih ⊢
              exact ih

end Replica

namespace Subscriber

/-- The run of the batch at the index is the first whose logs cannot be folded. -/
def FailsAt (s : Subscriber S) (logs : List Log) (headers : Headers) (k : Nat) (e : Failure) :
    Prop :=
  s.replica.FailsAt s.venue headers e (runs logs) k

theorem update_error_iff {s : Subscriber S} (ha : s.replica.inactive = false)
    (hs : s.replica.hasSnapshot = true) (hlenient : s.settings.policy = .lenient)
    {source : Source S} {logs : List Log} {headers : Headers} {e : Failure} :
    (s.update source logs headers).result = .error e ↔ ∃ k, s.FailsAt logs headers k e := by
  rw [result_held ⟨ha, hs⟩, if_neg (accepts_of_lenient hlenient)]
  refine Iff.trans ?_ Replica.replay_failure_iff
  change _ ↔ (s.replayed logs headers).2 = some e
  cases (s.replayed logs headers).2 <;> simp

/-- A failure of the venue leaves what an update with the runs before it leaves,
but for the trust in the snapshot. -/
theorem update_broken_off (s : Subscriber S) (ha : s.replica.inactive = false)
    (hs : s.replica.hasSnapshot = true) (hlenient : s.settings.policy = .lenient)
    (logs : List Log) (headers : Headers) (k : Nat) (e : Failure)
    (hfails : s.FailsAt logs headers k e) (source : Source S) :
    let o := s.update source logs headers
    o.result = .error e
      ∧ (∀ asked ∈ o.effects, ∃ block x, asked = .store block x)
      ∧ (∃ front, front <+: logs ∧ runs front = (runs logs).take k)
      ∧ (((runs logs).take k).IsChain (fun a b => a.block ≠ b.block) →
        runs (((runs logs).take k).flatMap (·.logs)) = (runs logs).take k)
      ∧ ∀ front, runs front = (runs logs).take k → ∀ again : Source S,
        let before := s.update again front headers
        before.result = .ok () ∧ o.effects = before.effects
          ∧ o.subscriber = { before.subscriber with
              replica := { before.subscriber.replica with
                invalid := if s.replica.pointer < before.subscriber.replica.pointer then false
                  else s.replica.invalid } } := by
  intro o
  have hheld : s.replica.Holds := ⟨ha, hs⟩
  obtain ⟨q, hfront, hwhole, hpublished⟩ := hfails.replay
  have haccepts : ¬s.Rejects logs headers := accepts_of_lenient hlenient
  have hreplayed : s.replayed logs headers = (q, some e) := hwhole
  have hsub : o.subscriber = { s with replica := q } := by
    change (s.update source logs headers).subscriber = _
    rw [update_held hheld, if_neg haccepts, hreplayed]
    rfl
  have heffects : o.effects =
      s.stores (s.replica.published s.venue headers ((runs logs).take k)) := by
    change (s.update source logs headers).effects = _
    rw [effects_held hheld, if_neg haccepts, hpublished]
  refine ⟨?_, ?_, ?_, ?_, ?_⟩
  · change (s.update source logs headers).result = _
    rw [result_held hheld, if_neg haccepts, hreplayed]
  · intro asked hasked
    rw [heffects, stores] at hasked
    split at hasked
    · obtain ⟨written, -, rfl⟩ := List.mem_map.mp hasked
      exact ⟨written.1, written.2, rfl⟩
    · cases hasked
  · obtain ⟨front, back, rfl, hruns, -⟩ := exists_cut logs k
    exact ⟨front, List.prefix_append front back, hruns⟩
  · exact runs_flatMap fun run hrun => logs_of_mem_runs (List.mem_of_mem_take hrun)
  · intro front hruns again before
    have hpart : s.replayed front headers = (q, none) := by
      rw [replayed, hruns]
      exact hfront
    have hbefore : before =
        ⟨{ s with replica := q.validate },
          s.stores (s.replica.published s.venue headers (runs front)), .ok ()⟩ :=
      update_of_accepted hheld (accepts_of_lenient hlenient) hpart
    have hinvalid : q.invalid = if s.replica.pointer < q.pointer then false
        else s.replica.invalid := by
      have htrust : (s.replica.replay s.venue headers (runs logs)).1.invalid = _ :=
        Replica.invalid_replay (runs logs) s.replica
      rwa [hwhole] at htrust
    rw [hbefore, hsub, heffects, hruns]
    refine ⟨rfl, rfl, ?_⟩
    change _ = { s with replica := { q.validate with
      invalid := if s.replica.pointer < q.pointer then false else s.replica.invalid } }
    rw [← hinvalid]
    rfl

/-- Block 7 has a poisoned log behind a sound one. The snapshot of block 6 is written
and trusted, although it was not trusted before. -/
theorem update_broken_off_poisoned :
    let s := ((new ⟨"g", "n"⟩ (Journal.venue 7 (some 8) false)
        { Settings.default with shareCache := true }).establish
      ⟨fun _ => .ok ⟨[]⟩, none, none, .ok ()⟩ 5 (.supplied ⟨["first"]⟩)).subscriber.invalidate
    let logs : List Log := [⟨7, [], [], some 6, some 0⟩, ⟨7, [], [], some 7, some 0⟩,
      ⟨7, [], [], some 7, some 8⟩, ⟨7, [], [], some 8, some 0⟩]
    let o := s.update (fun _ => .ok ⟨[]⟩) logs .empty
    let before := s.update (fun _ => .ok ⟨[]⟩) (logs.take 1) .empty
    s.replica.invalid = true ∧ s.FailsAt logs .empty 1 (.plain .processing "poisoned log")
      ∧ o.result = .error (.plain .processing "poisoned log") ∧ before.result = .ok ()
      ∧ o.effects = before.effects ∧ o.effects = [.store 6 ⟨["first", "6.0@-"]⟩]
      ∧ o.subscriber = before.subscriber
      ∧ o.subscriber.replica.history.blocks = [5, 6] ∧ o.subscriber.replica.invalid = false := by
  intro s logs o before
  have hfails : s.FailsAt logs .empty 1 (.plain .processing "poisoned log") :=
    ⟨_, rfl, _, rfl, rfl⟩
  obtain ⟨hresult, -, -, -, hbefore⟩ := update_broken_off s rfl rfl rfl logs .empty 1
    (.plain .processing "poisoned log") hfails (fun _ => .ok ⟨[]⟩)
  obtain ⟨hok, heffects, hsub⟩ := hbefore (logs.take 1) rfl (fun _ => .ok ⟨[]⟩)
  have hpublished : o.effects = [.store 6 ⟨["first", "6.0@-"]⟩] := by decide +kernel
  exact ⟨rfl, hfails, hresult, hok, heffects, hpublished, hsub, rfl, rfl⟩

end Subscriber

end ChainReplica
