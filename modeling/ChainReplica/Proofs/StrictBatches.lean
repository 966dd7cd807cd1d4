import ChainReplica.Proofs.Generation

/-!
# Strict batches

The strict policy looks at a batch once, before anything else happens. What it
looks at are single logs, pairs of neighbours and blocks (`Disordered`). That is
enough for the batch as a whole: positions that never decrease from one log to the
next never decrease at all, so the logs of a block are all in one run
(`runs_of_sorted`).

A batch that passes is applied as under the lenient policy, since nothing but this
first look reads the policy (`Subscriber.applyBatch_withPolicy`).
-/

namespace ChainReplica

variable {S : Type}

/-! ## What is rejected -/

/-- A log is in no block, or its position is smaller than that of the log before it,
or its block has no header. -/
def Disordered (logs : List Log) (headers : Headers) : Prop :=
  (∃ log ∈ logs, log.block = none)
    ∨ (∃ front a b back p q, logs = front ++ a :: b :: back ∧ a.position? = some p
      ∧ b.position? = some q ∧ Prod.Lex (· < ·) (· < ·) q p)
    ∨ ∃ log ∈ logs, ∃ block, log.block = some block ∧ headers.get? block = none

/-- Neighbours decide about all pairs. -/
theorem pairwise_follows_iff {logs : List Log}
    (hplaced : ∀ log ∈ logs, log.position?.isSome = true) :
    logs.Pairwise Follows ↔ ∀ front a b back p q, logs = front ++ a :: b :: back →
      a.position? = some p → b.position? = some q → ¬Prod.Lex (· < ·) (· < ·) q p := by
  -- Positions that do not decrease from one log to the next never decrease.
  have : Trans Follows Follows Follows := ⟨Follows.trans⟩
  rw [← List.isChain_iff_pairwise, List.isChain_iff_forall_rel_of_append_cons_cons]
  constructor
  · intro h front a b back p q hlogs hp hq
    obtain ⟨p', q', hp', hq', hle⟩ := h hlogs
    obtain rfl : p = p' := Option.some.inj (hp.symm.trans hp')
    obtain rfl : q = q' := Option.some.inj (hq.symm.trans hq')
    rw [← positionBefore_iff, hle]
    exact Bool.false_ne_true
  · rintro h a b front back rfl
    obtain ⟨p, hp⟩ := Option.isSome_iff_exists.mp (hplaced a (by simp))
    obtain ⟨q, hq⟩ := Option.isSome_iff_exists.mp (hplaced b (by simp))
    refine ⟨p, q, hp, hq, Bool.eq_false_iff.mpr ?_⟩
    rw [Ne, positionBefore_iff]
    exact h front a b back p q rfl hp hq

theorem known_runs_iff {logs : List Log} {headers : Headers} :
    (∀ run ∈ runs logs, headers.contains run.block = true) ↔
      ∀ log ∈ logs, ∀ block, log.block = some block → headers.get? block ≠ none := by
  have hcontains : ∀ block, headers.contains block = true ↔ headers.get? block ≠ none := by
    intro block
    simp only [BlockMap.contains_iff, Option.ne_none_iff_exists', BlockMap.get?_eq_some_iff]
  simp only [hcontains]
  constructor
  · intro h log hlog block hblock
    obtain ⟨run, hrun, rfl⟩ :=
      List.mem_map.mp (mem_blocks_runs.mpr (List.mem_map.mpr ⟨log, hlog, hblock⟩))
    exact h run hrun
  · intro h run hrun
    obtain ⟨log, hlog, hblock⟩ :=
      List.mem_map.mp (mem_blocks_runs.mp (List.mem_map_of_mem hrun))
    exact h log hlog run.block hblock

theorem placed_iff {log : Log} : log.position?.isSome = true ↔ log.block ≠ none := by
  cases hblock : log.block <;> simp [Log.position?, hblock]

theorem violations_eq_nil_iff {logs : List Log} {headers : Headers} :
    violations logs headers = [] ↔ ¬Disordered logs headers := by
  have hplaced : (∀ log ∈ logs, log.position?.isSome = true) ↔
      ¬∃ log ∈ logs, log.block = none := by
    simp only [placed_iff, not_exists, not_and]
  rw [violations, List.append_eq_nil_iff, logViolations_eq_nil_iff, headerViolations_eq_nil_iff,
    known_runs_iff]
  constructor
  · rintro ⟨⟨hall, -, hsorted⟩, hknown⟩ (hpending | hless | hmissing)
    · exact hplaced.mp hall hpending
    · obtain ⟨front, a, b, back, p, q, hlogs, hp, hq, hless⟩ := hless
      exact (pairwise_follows_iff hall).mp hsorted front a b back p q hlogs hp hq hless
    · obtain ⟨log, hlog, block, hblock, hnone⟩ := hmissing
      exact hknown log hlog block hblock hnone
  · intro h
    have hall := hplaced.mpr fun hpending => h (Or.inl hpending)
    refine ⟨⟨hall, ?_, ?_⟩, ?_⟩
    · rintro log - p q ⟨⟩
    · refine (pairwise_follows_iff hall).mpr ?_
      intro front a b back p q hlogs hp hq hless
      exact h (Or.inr (Or.inl ⟨front, a, b, back, p, q, hlogs, hp, hq, hless⟩))
    · intro log hlog block hblock hnone
      exact h (Or.inr (Or.inr ⟨log, hlog, block, hblock, hnone⟩))

/-! ## What reads the policy -/

def Subscriber.withPolicy (s : Subscriber S) (policy : BatchPolicy) : Subscriber S :=
  { s with settings := { s.settings with policy := policy } }

def Outcome.withPolicy (o : Outcome S) (policy : BatchPolicy) : Outcome S :=
  { o with subscriber := o.subscriber.withPolicy policy }

@[simp] theorem Subscriber.withPolicy_replica (s : Subscriber S) (policy : BatchPolicy) :
    (s.withPolicy policy).replica = s.replica := rfl

@[simp] theorem Subscriber.withPolicy_venue (s : Subscriber S) (policy : BatchPolicy) :
    (s.withPolicy policy).venue = s.venue := rfl

theorem Subscriber.put_withPolicy (s : Subscriber S) (policy : BatchPolicy) (x : S)
    (block : Nat) : (s.withPolicy policy).put (some x) block =
      ((s.put (some x) block).1.withPolicy policy, (s.put (some x) block).2) := by
  rw [put, put, withPolicy_replica]
  split <;> rfl

namespace Progress

variable (p : Progress S) (policy : BatchPolicy) (source : Source S) (headers : Headers)

def withPolicy (p : Progress S) (policy : BatchPolicy) : Progress S :=
  { p with subscriber := p.subscriber.withPolicy policy }

@[simp] theorem withPolicy_subscriber :
    (p.withPolicy policy).subscriber = p.subscriber.withPolicy policy := rfl

theorem put_withPolicy (x : S) (block : Nat) :
    (p.withPolicy policy).put x block = (p.put x block).withPolicy policy := by
  simp only [put, withPolicy, Subscriber.put_withPolicy]

theorem generate_withPolicy (block : Nat) : (p.withPolicy policy).generate source block =
    (p.generate source block).withPolicy policy := by
  have hsame : (p.withPolicy policy).refusal = p.refusal := rfl
  cases hrefusal : p.refusal with
  | some e =>
      rw [generate_of_refusal source hrefusal, generate_of_refusal source (hsame.trans hrefusal)]
  | none =>
      cases hsource : source block with
      | error e =>
          rw [generate_of_error source hrefusal hsource,
            generate_of_error source (hsame.trans hrefusal) hsource]
          rfl
      | ok x =>
          rw [generate_of_ok source hrefusal hsource,
            generate_of_ok source (hsame.trans hrefusal) hsource]
          simp only [withPolicy, Subscriber.put_withPolicy]

theorem keep_withPolicy (x : S) (block : Nat) :
    (p.withPolicy policy).keep x block = (p.keep x block).withPolicy policy := by
  rw [keep, keep, withPolicy_subscriber, Subscriber.withPolicy_replica, put_withPolicy]
  split <;> rfl

theorem step_withPolicy (run : Run) : (p.withPolicy policy).step source headers run =
    ((p.step source headers run).1.withPolicy policy, (p.step source headers run).2) := by
  let q : Progress S := { p with newest := max p.newest run.block }
  cases hhas : p.subscriber.replica.hasSnapshot with
  | false =>
      rw [step_of_bare source headers hhas,
        step_of_bare (p := p.withPolicy policy) source headers hhas]
      exact Prod.ext (generate_withPolicy q policy source run.block) rfl
  | true =>
      simp only [step, withPolicy_subscriber, Subscriber.withPolicy_replica,
        Subscriber.withPolicy_venue, hhas, Bool.not_true, Bool.false_eq_true, if_false]
      cases p.subscriber.replica.history.latestBefore run.block with
      | none => rfl
      | some base =>
          dsimp only
          cases p.subscriber.venue.fold base.2 run.logs (headers.get? run.block) with
          | error e => rfl
          | ok changed =>
              cases changed with
              | none => rfl
              | some next => exact Prod.ext (keep_withPolicy q policy next run.block) rfl

theorem replay_withPolicy : ∀ (runs : List Run) (p : Progress S),
    (p.withPolicy policy).replay source headers runs =
      ((p.replay source headers runs).1.withPolicy policy, (p.replay source headers runs).2)
  | [], _ => rfl
  | run :: rest, p => by
      rw [replay, replay, step_withPolicy]
      generalize p.step source headers run = q
      obtain ⟨q, failure⟩ := q
      cases failure with
      | some e => rfl
      | none => exact replay_withPolicy rest q

theorem cover_withPolicy : (p.withPolicy policy).cover source headers =
    (p.cover source headers).withPolicy policy := by
  cases hhas : p.subscriber.replica.hasSnapshot with
  | true =>
      rw [cover_settled source headers (Or.inl hhas),
        cover_settled (p := p.withPolicy policy) source headers (Or.inl hhas)]
      rfl
  | false =>
      cases hlast : headers.last? with
      | none =>
          rw [cover, cover, hlast]
      | some last =>
          rw [cover_of_last source headers hhas hlast,
            cover_of_last (p := p.withPolicy policy) source headers hhas hlast]
          exact generate_withPolicy { p with newest := max p.newest last.1 } policy source last.1

theorem finish_withPolicy : (p.withPolicy policy).finish = p.finish.withPolicy policy := rfl

end Progress

namespace Subscriber

theorem applyBatch_withPolicy (s : Subscriber S) (policy : BatchPolicy) (source : Source S)
    (logs : List Log) (headers : Headers) : (s.withPolicy policy).applyBatch source logs headers =
      (s.applyBatch source logs headers).withPolicy policy := by
  have hstart : Progress.start (s.withPolicy policy) = (Progress.start s).withPolicy policy := rfl
  rw [applyBatch, applyBatch, hstart, Progress.replay_withPolicy]
  generalize (Progress.start s).replay source headers (runs logs) = q
  obtain ⟨q, failure⟩ := q
  cases failure with
  | some e => rfl
  | none =>
      change (((q.withPolicy policy).cover source headers).finish : Outcome S) = _
      rw [Progress.cover_withPolicy, Progress.finish_withPolicy]

theorem rejects_strict_iff {s : Subscriber S} {logs : List Log} {headers : Headers} :
    (s.withPolicy .strict).Rejects logs headers ↔ Disordered logs headers := by
  have hstrict : (s.withPolicy .strict).settings.policy = .strict := rfl
  simp only [Rejects, hstrict, true_and, Ne, violations_eq_nil_iff, Classical.not_not]

/-- The runs of a batch that the strict policy accepts. -/
theorem runs_of_ordered {logs : List Log} {headers : Headers} (h : ¬Disordered logs headers) :
    (runs logs).flatMap (·.logs) = logs ∧ ((runs logs).map (·.block)).Pairwise (· < ·)
      ∧ ∀ run ∈ runs logs, run.logs = logs.filter (·.block = some run.block)
        ∧ run.logs.Pairwise fun a b => a.index.getD 0 ≤ b.index.getD 0 := by
  obtain ⟨hlogs, -⟩ := List.append_eq_nil_iff.mp (violations_eq_nil_iff.mpr h)
  obtain ⟨hall, -, hsorted⟩ := logViolations_eq_nil_iff.mp hlogs
  have hplaced : ∀ log ∈ logs, log.block.isSome = true := fun log hlog =>
    Option.isSome_iff_ne_none.mpr (placed_iff.mp (hall log hlog))
  obtain ⟨hascending, hwhole⟩ := runs_of_sorted hplaced hsorted
  refine ⟨flatMap_runs hplaced, hascending, ?_⟩
  intro run hrun
  refine ⟨hwhole run hrun, ?_⟩
  have hown := (logs_of_mem_runs hrun).2
  have hpart : run.logs.Pairwise Follows := by
    rw [hwhole run hrun]
    exact hsorted.sublist List.filter_sublist
  exact hpart.imp_of_mem fun ha hb hfollows => hfollows.index_le (hown _ ha) (hown _ hb)

/-- The strict policy rejects a batch as a whole, before any effect, or it makes no
difference. -/
theorem update_strict (s : Subscriber S) (ha : s.replica.inactive = false) (logs : List Log)
    (headers : Headers) (source : Source S) :
    let strict := (s.withPolicy .strict).update source logs headers
    let lenient := (s.withPolicy .lenient).update source logs headers
    let rejected := rejection s.id (violations logs headers)
    ((s.withPolicy .strict).Rejects logs headers ↔ Disordered logs headers)
      ∧ (Disordered logs headers →
        strict = ⟨s.withPolicy .strict, [], .error rejected⟩ ∧ rejected.boundary = .ordering)
      ∧ (¬Disordered logs headers →
        strict = lenient.withPolicy .strict
          ∧ (runs logs).flatMap (·.logs) = logs
          ∧ ((runs logs).map (·.block)).Pairwise (· < ·)
          ∧ ∀ run ∈ runs logs, run.logs = logs.filter (·.block = some run.block)
            ∧ run.logs.Pairwise fun a b => a.index.getD 0 ≤ b.index.getD 0) := by
  intro strict lenient rejected
  have hstrict : strict = _ := update_awake (s := s.withPolicy .strict) ha
  have hlenient : lenient = _ := update_awake (s := s.withPolicy .lenient) ha
  rw [if_neg (accepts_of_lenient rfl)] at hlenient
  refine ⟨rejects_strict_iff, ?_, ?_⟩
  · intro hwrong
    rw [if_pos (rejects_strict_iff.mpr hwrong)] at hstrict
    exact ⟨hstrict, rfl⟩
  · intro hsound
    rw [if_neg fun hrejects => hsound (rejects_strict_iff.mp hrejects),
      applyBatch_withPolicy] at hstrict
    rw [applyBatch_withPolicy] at hlenient
    refine ⟨?_, runs_of_ordered hsound⟩
    rw [hstrict, hlenient]
    rfl

/-- Two logs of block 6 and one of block 7: in order, and the other way round. -/
theorem update_strict_counted :
    let s := new ⟨"g", "n"⟩ (Counter.venue 7) { Settings.default with shareCache := true }
    let logs : List Log :=
      [⟨7, [], [], some 6, none⟩, ⟨7, [], [], some 6, some 2⟩, ⟨7, [], [], some 7, some 0⟩]
    let headers : Headers := .ofList [⟨6, 6, 5, 0⟩, ⟨7, 7, 6, 0⟩]
    let strict := s.withPolicy .strict
    let o := strict.update (fun _ => .ok ⟨10⟩) logs headers
    let lenient := (s.withPolicy .lenient).update (fun _ => .ok ⟨10⟩) logs headers
    let rejected : Failure := .plain .ordering ("2 violation(s) in batch for g/n: "
      ++ "log (6, 2) delivered after (7, 0); log (6, 0) delivered after (6, 2)")
    s.replica.inactive = false ∧ ¬Disordered logs headers ∧ o = lenient.withPolicy .strict
      ∧ o.effects = [.generate 6, .store 6 ⟨10⟩, .store 7 ⟨11⟩]
      ∧ Disordered logs.reverse headers
      ∧ strict.update (fun _ => .ok ⟨10⟩) logs.reverse headers = ⟨strict, [], .error rejected⟩ := by
  intro s logs headers strict o lenient rejected
  have hsound : ¬Disordered logs headers := violations_eq_nil_iff.mp (by decide)
  have hwrong : Disordered logs.reverse headers :=
    Or.inr (Or.inl ⟨[], _, _, _, (7, 0), (6, 2), rfl, rfl, rfl, .left _ _ (by decide)⟩)
  have htext : rejection s.id (violations logs.reverse headers) = rejected := by decide +kernel
  obtain ⟨-, -, hsame⟩ := update_strict s rfl logs headers (fun _ => .ok ⟨10⟩)
  obtain ⟨-, hrejected, -⟩ := update_strict s rfl logs.reverse headers (fun _ => .ok ⟨10⟩)
  refine ⟨rfl, hsound, (hsame hsound).1, rfl, hwrong, ?_⟩
  rw [← htext]
  exact (hrejected hwrong).1

end Subscriber

end ChainReplica
