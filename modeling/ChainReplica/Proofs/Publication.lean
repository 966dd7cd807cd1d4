import ChainReplica.Proofs.Replay

/-!
# What an update of a held snapshot publishes

A subscriber that holds a snapshot builds none during an update and asks for no
job, so all that an update asks of the outside world is to publish the snapshots
that became current (`Subscriber.effects_held`). These are again a matter of the
replica alone (`Replica.published`): a run publishes what it made current, and a
run of an older block, which only stores a checkpoint, publishes nothing.

Whether the snapshot is trusted makes no difference to what runs do or publish
(`Replica.replay_validate`, `Replica.published_validate`).
-/

namespace ChainReplica

variable {S : Type}

/-! ## Snapshots that become current -/

namespace Replica

/-- What became current in a step: a snapshot, if the pointer moved forward. -/
def moved (r r' : Replica S) : List (Nat × S) :=
  if r.pointer < r'.pointer then r'.current.toList.map (r'.pointer, ·) else []

/-- What becomes current while runs are taken, in order, up to a failure. -/
def published (venue : Venue S) (headers : Headers) (r : Replica S) : List Run → List (Nat × S)
  | [] => []
  | run :: rest => match r.take venue headers run with
    | .error _ => []
    | .ok next => r.moved next ++ published venue headers next rest

variable {r : Replica S} {venue : Venue S} {headers : Headers}

@[simp] theorem moved_self (r : Replica S) : r.moved r = [] := by
  rw [moved, if_neg (Nat.lt_irrefl _)]

theorem moved_keep (x : S) (block : Nat) :
    r.moved (r.keep x block) = if r.pointer < block then [(block, x)] else [] := by
  rw [keep]
  split
  · rename_i hnewer
    simp only [moved, apply, if_pos hnewer, Option.toList_some, List.map_cons, List.map_nil]
  · exact moved_self r

/-! ## Trust makes no difference -/

theorem validate_keep (x : S) (block : Nat) :
    r.validate.keep x block = (r.keep x block).validate := by
  rw [keep, keep]
  change (if r.pointer < block then _ else _) = _
  split <;> rfl

theorem take_validate (run : Run) :
    r.validate.take venue headers run = (r.take venue headers run).map validate := by
  have hsame : r.validate.history = r.history := rfl
  cases hbase : r.history.latestBefore run.block with
  | none =>
      rw [take_of_none hbase, take_of_none (hsame ▸ hbase)]
      rfl
  | some base =>
      rw [take_of_base hbase, take_of_base (hsame ▸ hbase)]
      cases venue.fold base.2 run.logs (headers.get? run.block) with
      | error e => rfl
      | ok changed =>
          cases changed with
          | none => rfl
          | some next => exact congrArg Except.ok (validate_keep next run.block)

theorem replay_validate : ∀ (runs : List Run) (r : Replica S),
    r.validate.replay venue headers runs =
      ((r.replay venue headers runs).1.validate, (r.replay venue headers runs).2)
  | [], _ => rfl
  | run :: rest, r => by
      rw [replay, replay, take_validate]
      cases r.take venue headers run with
      | error e => rfl
      | ok next => exact replay_validate rest next

theorem published_validate : ∀ (runs : List Run) (r : Replica S),
    r.validate.published venue headers runs = r.published venue headers runs
  | [], _ => rfl
  | run :: rest, r => by
      rw [published, published, take_validate]
      cases r.take venue headers run with
      | error e => rfl
      | ok next => exact congrArg (r.moved next ++ ·) (published_validate rest next)

end Replica

/-! ## Effects -/

namespace Subscriber

/-- How snapshots are published: by a master that shares, each on its own. -/
def stores (s : Subscriber S) (written : List (Nat × S)) : List (Effect S) :=
  if s.settings.sharesAs .master then written.map fun e => .store e.1 e.2 else []

theorem stores_append (s : Subscriber S) (xs ys : List (Nat × S)) :
    s.stores (xs ++ ys) = s.stores xs ++ s.stores ys := by
  unfold stores
  split
  · exact List.map_append
  · rfl

@[simp] theorem stores_nil (s : Subscriber S) : s.stores [] = [] := by
  unfold stores
  split <;> rfl

end Subscriber

namespace Progress

variable {p : Progress S} (source : Source S) (headers : Headers)

theorem keep_effects (ha : p.subscriber.replica.inactive = false) (next : S) (block : Nat) :
    (p.keep next block).effects = p.effects
      ++ p.subscriber.stores
        (p.subscriber.replica.moved (p.subscriber.replica.keep next block)) := by
  rw [Replica.moved_keep, keep]
  split
  · simp [put, Subscriber.put, Subscriber.stores, ha]
  · simp

theorem step_effects (h : p.subscriber.replica.Holds) (run : Run) :
    (p.step source headers run).1.effects = p.effects ++ p.subscriber.stores
      (match p.subscriber.replica.take p.subscriber.venue headers run with
        | .error _ => []
        | .ok next => p.subscriber.replica.moved next) := by
  obtain ⟨ha, hs⟩ := h
  cases hbase : p.subscriber.replica.history.latestBefore run.block with
  | none => simp [step, hs, hbase, Replica.take_of_none hbase]
  | some base =>
      rw [Replica.take_of_base hbase]
      cases hfold : p.subscriber.venue.fold base.2 run.logs (headers.get? run.block) with
      | error e => simp [step, hs, hbase, hfold, Except.map]
      | ok changed =>
          cases changed with
          | none => simp [step, hs, hbase, hfold, Except.map]
          | some next => simp [step, hs, hbase, hfold, Except.map, keep_effects, ha]

theorem replay_effects : ∀ (runs : List Run) {p : Progress S}, p.subscriber.replica.Holds →
    (p.replay source headers runs).1.effects = p.effects ++ p.subscriber.stores
      (p.subscriber.replica.published p.subscriber.venue headers runs)
  | [], p, _ => by simp [replay, Replica.published]
  | run :: rest, p, h => by
      have heffects := step_effects source headers h run
      obtain ⟨-, hstep⟩ := step_held source headers run h
      rw [replay, Replica.published]
      generalize p.step source headers run = q at heffects hstep
      obtain ⟨q, failure⟩ := q
      cases ht : p.subscriber.replica.take p.subscriber.venue headers run with
      | error e =>
          rw [ht] at hstep heffects
          obtain ⟨rfl, -⟩ := hstep
          exact heffects
      | ok next =>
          rw [ht] at hstep heffects
          obtain ⟨rfl, hsub⟩ := hstep
          have hheld : q.subscriber.replica.Holds := by
            rw [hsub]
            exact h.take ht
          have hrest := replay_effects rest hheld
          change (q.replay source headers rest).1.effects = _
          rw [hrest, heffects, hsub, Subscriber.stores_append, List.append_assoc]
          rfl

theorem cover_effects (h : p.subscriber.replica.hasSnapshot = true) :
    (p.cover source headers).effects = p.effects := by
  unfold cover
  split
  · rfl
  · simp [h]

/-- With a snapshot held, the rest of a batch publishes what becomes current. -/
theorem conclude_effects (runs : List Run) (h : p.subscriber.replica.Holds) :
    (p.conclude source headers runs).effects = p.effects ++ p.subscriber.stores
      (p.subscriber.replica.published p.subscriber.venue headers runs) := by
  have heffects := replay_effects source headers runs h
  obtain ⟨-, -, hsub⟩ := replay_held source headers runs h
  have hheld : (p.subscriber.replica.replay p.subscriber.venue headers runs).1.Holds := h.replay
  rw [conclude]
  generalize p.replay source headers runs = q at heffects hsub
  obtain ⟨q, failure⟩ := q
  cases failure with
  | some e => exact heffects
  | none =>
      have hhas : q.subscriber.replica.hasSnapshot = true := by
        rw [hsub]
        exact hheld.2
      obtain ⟨hcover, -⟩ := cover_held source headers hhas
      simp only [finish, needsHealing, cover_effects _ _ hhas, hcover, hhas]
      simpa using heffects

end Progress

namespace Subscriber

variable {s : Subscriber S} {source : Source S} {logs : List Log} {headers : Headers}

/-- All that an update of a held snapshot asks of the outside world. -/
theorem effects_held (h : s.replica.Holds) :
    (s.update source logs headers).effects =
      if s.Rejects logs headers then []
      else s.stores (s.replica.published s.venue headers (runs logs)) := by
  rw [update_awake h.1]
  split
  · rfl
  · exact (Progress.conclude_effects source headers (runs logs) (p := Progress.start s) h).trans
      (List.nil_append _)

/-- An update of a held snapshot that goes through has taken every run. -/
theorem replayed_of_ok (h : s.replica.Holds)
    (hok : (s.update source logs headers).result = .ok ()) :
    ¬s.Rejects logs headers ∧ ∃ q, s.replayed logs headers = (q, none) := by
  rw [result_held h] at hok
  split at hok
  · cases hok
  · rename_i haccepts
    refine ⟨haccepts, (s.replayed logs headers).1, ?_⟩
    cases hfailure : (s.replayed logs headers).2 with
    | some e =>
        rw [hfailure] at hok
        cases hok
    | none => exact Prod.ext rfl hfailure

/-- An update of a held snapshot that goes through, as a whole. -/
theorem update_of_accepted (h : s.replica.Holds) (hr : ¬s.Rejects logs headers)
    {q : Replica S} (hq : s.replayed logs headers = (q, none)) :
    s.update source logs headers =
      ⟨{ s with replica := q.validate },
        s.stores (s.replica.published s.venue headers (runs logs)), .ok ()⟩ := by
  have hsub : (s.update source logs headers).subscriber = _ := update_held h
  have heffects : (s.update source logs headers).effects = _ := effects_held h
  have hresult : (s.update source logs headers).result = _ := result_held h
  rw [if_neg hr, hq] at hsub hresult
  rw [if_neg hr] at heffects
  generalize s.update source logs headers = o at hsub heffects hresult
  obtain ⟨t, effects, result⟩ := o
  cases hsub
  cases heffects
  cases hresult
  rfl

end Subscriber

end ChainReplica
