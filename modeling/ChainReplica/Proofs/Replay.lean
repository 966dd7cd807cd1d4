import ChainReplica.Subscriber.Update
import ChainReplica.Proofs.Checkpoints

/-!
# Updates of a held snapshot

A subscriber that is awake and holds a snapshot never builds one during an
update, so the update is a matter of its replica alone. `Replica.take` is what
one run does to the replica, and `Replica.replay` what runs do up to the first
failure of the venue. `Subscriber.update_held` and `Subscriber.result_held` say
that an update is this replay, unless the batch is rejected.

Nothing of the outside world is left on the right-hand sides: what a snapshot
from scratch would be does not matter to a subscriber that holds one.
-/

namespace ChainReplica

variable {S : Type}

/-! ## Runs on a replica -/

namespace Replica

/-- Awake, and with a snapshot. -/
def Holds (r : Replica S) : Prop := r.inactive = false ∧ r.hasSnapshot = true

/-- Keeps a changed snapshot of a block: as the current one if the block is
newer than the pointer, as a checkpoint only if it is not. -/
def keep (r : Replica S) (snapshot : S) (block : Nat) : Replica S :=
  if r.pointer < block then r.apply (some snapshot) block else r.checkpoint block snapshot

def take (venue : Venue S) (headers : Headers) (r : Replica S) (run : Run) :
    Except Failure (Replica S) :=
  match r.history.latestBefore run.block with
  | none => .ok r
  | some (_, base) => match venue.fold base run.logs (headers.get? run.block) with
    | .error e => .error e
    | .ok none => .ok r
    | .ok (some next) => .ok (r.keep next run.block)

/-- What runs do to a replica that holds a snapshot, up to a failure. -/
def replay (venue : Venue S) (headers : Headers) (r : Replica S) :
    List Run → Replica S × Option Failure
  | [] => (r, none)
  | run :: rest => match r.take venue headers run with
    | .error e => (r, some e)
    | .ok next => replay venue headers next rest

/-- Runs that all went through leave the snapshot trusted. -/
def settle : Replica S × Option Failure → Replica S
  | (r, some _) => r
  | (r, none) => r.validate

variable {r r' : Replica S} {venue : Venue S} {headers : Headers} {run : Run}

theorem take_of_none (h : r.history.latestBefore run.block = none) :
    r.take venue headers run = .ok r := by
  simp only [take, h]

theorem take_of_base {base : Nat × S} (h : r.history.latestBefore run.block = some base) :
    r.take venue headers run =
      (venue.fold base.2 run.logs (headers.get? run.block)).map fun changed =>
        match changed with
        | none => r
        | some next => r.keep next run.block := by
  obtain ⟨block, x⟩ := base
  simp only [take, h]
  cases venue.fold x run.logs (headers.get? run.block) with
  | error e => rfl
  | ok changed => cases changed <;> rfl

/-- A run leaves the replica alone, or keeps a changed snapshot in it. -/
theorem take_cases (h : r.take venue headers run = .ok r') :
    r' = r ∨ ∃ next, r' = r.keep next run.block := by
  cases hbase : r.history.latestBefore run.block with
  | none =>
      rw [take_of_none hbase] at h
      exact Or.inl (Except.ok.inj h).symm
  | some base =>
      rw [take_of_base hbase] at h
      cases hfold : venue.fold base.2 run.logs (headers.get? run.block) with
      | error e => rw [hfold] at h; cases h
      | ok changed =>
          rw [hfold] at h
          cases changed with
          | none => exact Or.inl (Except.ok.inj h).symm
          | some next => exact Or.inr ⟨next, (Except.ok.inj h).symm⟩

theorem Holds.keep (h : r.Holds) (next : S) (block : Nat) : (r.keep next block).Holds := by
  unfold Replica.keep
  split
  · exact ⟨h.1, rfl⟩
  · exact h

theorem Holds.take (h : r.Holds) (ht : r.take venue headers run = .ok r') : r'.Holds := by
  rcases take_cases ht with rfl | ⟨next, rfl⟩
  · exact h
  · exact h.keep next run.block

end Replica

/-! ## Runs on a subscriber -/

namespace Progress

variable {p : Progress S} (source : Source S) (headers : Headers)

theorem keep_subscriber (ha : p.subscriber.replica.inactive = false) (next : S) (block : Nat) :
    (p.keep next block).subscriber =
      { p.subscriber with replica := p.subscriber.replica.keep next block } := by
  unfold Progress.keep Replica.keep
  split <;> simp [Progress.put, Subscriber.put, ha]

theorem keep_refusal (next : S) (block : Nat) : (p.keep next block).refusal = p.refusal := by
  unfold Progress.keep
  split <;> rfl

theorem step_of_bare (h : p.subscriber.replica.hasSnapshot = false) (run : Run) :
    p.step source headers run =
      (({ p with newest := max p.newest run.block }).generate source run.block, none) := by
  simp only [step, h, Bool.not_false, if_true]

/-- A step builds a first snapshot, keeps a changed one, or only takes note of the
block. -/
theorem step_cases (p : Progress S) (run : Run) :
    let seen : Progress S := { p with newest := max p.newest run.block }
    (p.subscriber.replica.hasSnapshot = false
        ∧ (p.step source headers run).1 = seen.generate source run.block)
      ∨ (p.step source headers run).1 = seen
      ∨ ∃ base next, p.subscriber.replica.hasSnapshot = true
        ∧ p.subscriber.replica.history.latestBefore run.block = some base
        ∧ (p.step source headers run).1 = seen.keep next run.block := by
  intro seen
  cases hhas : p.subscriber.replica.hasSnapshot with
  | false => exact Or.inl ⟨rfl, by rw [step_of_bare source headers hhas]⟩
  | true =>
      refine Or.inr ?_
      simp only [step, hhas, Bool.not_true, Bool.false_eq_true, if_false]
      cases p.subscriber.replica.history.latestBefore run.block with
      | none => exact Or.inl rfl
      | some base =>
          dsimp only
          cases p.subscriber.venue.fold base.2 run.logs (headers.get? run.block) with
          | error e => exact Or.inl rfl
          | ok changed =>
              cases changed with
              | none => exact Or.inl rfl
              | some next => exact Or.inr ⟨base, next, trivial, rfl, rfl⟩

/-- What every step keeps, runs keep. -/
theorem replay_keeps {P : Progress S → Prop}
    (hstep : ∀ (p : Progress S) (run : Run), P p → P (p.step source headers run).1) :
    ∀ (runs : List Run) {p : Progress S}, P p → P (p.replay source headers runs).1
  | [], _, h => h
  | run :: rest, p, h => by
      have hnext := hstep p run h
      rw [replay]
      generalize p.step source headers run = q at hnext
      obtain ⟨q, failure⟩ := q
      cases failure with
      | some e => exact hnext
      | none => exact replay_keeps hstep rest hnext

/-- A step on a held snapshot: it fails and changes nothing, or the replica
takes the run. -/
theorem step_held (run : Run) (h : p.subscriber.replica.Holds) :
    ((p.step source headers run).1.refusal = p.refusal) ∧
      match p.subscriber.replica.take p.subscriber.venue headers run with
      | .error e => (p.step source headers run).2 = some e
          ∧ (p.step source headers run).1.subscriber = p.subscriber
      | .ok r => (p.step source headers run).2 = none
          ∧ (p.step source headers run).1.subscriber = { p.subscriber with replica := r } := by
  obtain ⟨ha, hs⟩ := h
  cases hbase : p.subscriber.replica.history.latestBefore run.block with
  | none => simp [Progress.step, hs, hbase, Replica.take_of_none hbase]
  | some base =>
      rw [Replica.take_of_base hbase]
      cases hfold : p.subscriber.venue.fold base.2 run.logs (headers.get? run.block) with
      | error e => simp [Progress.step, hs, hbase, hfold, Except.map]
      | ok changed =>
          cases changed with
          | none => simp [Progress.step, hs, hbase, hfold, Except.map]
          | some next =>
              simp [Progress.step, hs, hbase, hfold, Except.map, keep_refusal, keep_subscriber, ha]

/-- The replay of a batch on a held snapshot is the replay on the replica. -/
theorem replay_held : ∀ (runs : List Run) {p : Progress S}, p.subscriber.replica.Holds →
    let q := p.replay source headers runs
    let result := p.subscriber.replica.replay p.subscriber.venue headers runs
    q.2 = result.2 ∧ q.1.refusal = p.refusal
      ∧ q.1.subscriber = { p.subscriber with replica := result.1 }
  | [], p, _ => ⟨rfl, rfl, rfl⟩
  | run :: rest, p, h => by
      obtain ⟨hrefusal, hstep⟩ := step_held source headers run h
      generalize hq : p.step source headers run = q at hrefusal hstep
      obtain ⟨q, failure⟩ := q
      cases ht : p.subscriber.replica.take p.subscriber.venue headers run with
      | error e =>
          rw [ht] at hstep
          obtain ⟨rfl, hsub⟩ := hstep
          simpa only [replay, Replica.replay, hq, ht, true_and] using ⟨hrefusal, hsub⟩
      | ok r =>
          rw [ht] at hstep
          obtain ⟨rfl, hsub⟩ := hstep
          obtain ⟨hfail, hrest, hlast⟩ :=
            replay_held rest (p := q) (by rw [hsub]; exact h.take ht)
          simp only [replay, Replica.replay, hq, ht]
          rw [hsub] at hfail hlast
          exact ⟨hfail, hrest.trans hrefusal, hlast⟩

theorem cover_held (h : p.subscriber.replica.hasSnapshot = true) :
    (p.cover source headers).subscriber = p.subscriber
      ∧ (p.cover source headers).refusal = p.refusal := by
  unfold cover
  split
  · exact ⟨rfl, rfl⟩
  · simp [h]

end Progress

namespace Replica

variable {venue : Venue S} {headers : Headers}

theorem Holds.replay : ∀ {runs : List Run} {r : Replica S}, r.Holds →
    (r.replay venue headers runs).1.Holds
  | [], _, h => h
  | run :: rest, r, h => by
      simp only [Replica.replay]
      cases ht : r.take venue headers run with
      | error e => exact h
      | ok next => exact (h.take ht).replay

theorem Holds.of_replay {runs : List Run} {r q : Replica S} {failure : Option Failure}
    (h : r.Holds) (hq : r.replay venue headers runs = (q, failure)) : q.Holds := by
  have hreplayed : (r.replay venue headers runs).1.Holds := h.replay
  rwa [hq] at hreplayed

end Replica

/-! ## Whole updates -/

namespace Progress

variable {p : Progress S} (source : Source S) (headers : Headers)

/-- What becomes of a batch of which these runs are still to be taken. -/
def conclude (p : Progress S) (runs : List Run) : Outcome S :=
  match p.replay source headers runs with
  | (q, some e) => ⟨q.subscriber, q.effects, .error e⟩
  | (q, none) => (q.cover source headers).finish

/-- With a snapshot held, the rest of a batch is a replay on the replica. -/
theorem conclude_held (runs : List Run) (h : p.subscriber.replica.Holds)
    (hnone : p.refusal = none) :
    let result := p.subscriber.replica.replay p.subscriber.venue headers runs
    (p.conclude source headers runs).subscriber =
        { p.subscriber with replica := Replica.settle result }
      ∧ (p.conclude source headers runs).result =
        match result.2 with
        | some e => .error e
        | none => .ok () := by
  intro result
  obtain ⟨hfail, hrefusal, hsub⟩ := replay_held source headers runs h
  have hheld : result.1.Holds := h.replay
  unfold conclude
  generalize p.replay source headers runs = q at hfail hrefusal hsub
  obtain ⟨q, failure⟩ := q
  change q.subscriber = { p.subscriber with replica := result.1 } at hsub
  change failure = result.2 at hfail
  change q.refusal = p.refusal at hrefusal
  subst hfail
  rw [hnone] at hrefusal
  clear_value result
  obtain ⟨r, failure⟩ := result
  cases failure with
  | some e => exact ⟨hsub, rfl⟩
  | none =>
      have hhas : q.subscriber.replica.hasSnapshot = true := by rw [hsub]; exact hheld.2
      obtain ⟨hcover, hno⟩ := cover_held source headers hhas
      simp only [finish, hcover, hno, hrefusal, hsub, Replica.settle, and_self]

end Progress

namespace Subscriber

variable {s : Subscriber S} {source : Source S} {logs : List Log} {headers : Headers}

abbrev Rejects (s : Subscriber S) (logs : List Log) (headers : Headers) : Prop :=
  s.settings.policy = .strict ∧ violations logs headers ≠ []

theorem accepts_of_lenient (h : s.settings.policy = .lenient) : ¬s.Rejects logs headers := by
  rintro ⟨hstrict, -⟩
  rw [h] at hstrict
  cases hstrict

theorem update_awake (ha : s.replica.inactive = false) :
    s.update source logs headers =
      if s.Rejects logs headers then ⟨s, [], .error (rejection s.id (violations logs headers))⟩
      else s.applyBatch source logs headers := by
  simp only [update, ha, Bool.false_eq_true, if_false, Rejects]

/-- What an accepted batch does to a replica that holds a snapshot. -/
def replayed (s : Subscriber S) (logs : List Log) (headers : Headers) :
    Replica S × Option Failure :=
  s.replica.replay s.venue headers (runs logs)

theorem applyBatch_eq : s.applyBatch source logs headers =
    (Progress.start s).conclude source headers (runs logs) := rfl

/-- An update of a held snapshot is a replay on the replica, unless the batch
is rejected. -/
theorem update_held (h : s.replica.Holds) :
    (s.update source logs headers).subscriber =
      if s.Rejects logs headers then s
      else { s with replica := Replica.settle (s.replayed logs headers) } := by
  rw [update_awake h.1]
  split
  · rfl
  · exact (Progress.conclude_held source headers (runs logs) (p := Progress.start s) h rfl).1

/-- When an update of a held snapshot fails, and with what. -/
theorem result_held (h : s.replica.Holds) :
    (s.update source logs headers).result =
      if s.Rejects logs headers then .error (rejection s.id (violations logs headers))
      else match (s.replayed logs headers).2 with
        | some e => .error e
        | none => .ok () := by
  rw [update_awake h.1]
  split
  · rfl
  · exact (Progress.conclude_held source headers (runs logs) (p := Progress.start s) h rfl).2

end Subscriber

end ChainReplica
