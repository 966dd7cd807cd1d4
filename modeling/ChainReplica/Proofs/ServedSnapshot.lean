import ChainReplica.Proofs.ChangedBlocks
import ChainReplica.Proofs.Preservation
import ChainReplica.Proofs.Reorganization

/-!
# The served snapshot and its checkpoint

What is served is the current snapshot, but the next block is folded onto the
checkpoint of the pointer. Both are one value as long as every write puts it into
both places (`Replica.Anchored`).

A block newer than the pointer is written into both, an older one into neither.
The pointer's own block is in between: delivered again, it replaces the
checkpoint and not the current snapshot. With ascending blocks the two come apart
in this way only, and only if no newer block of the batch changes the snapshot
after that (`Subscriber.update_anchored_iff`).
-/

namespace ChainReplica

variable {S : Type}

namespace Replica

variable {r : Replica S} {venue : Venue S} {headers : Headers} {x : S} {block : Nat}

/-- The checkpoint of the pointer is the current snapshot. -/
def Anchored (r : Replica S) : Prop := r.history.get? r.pointer = r.current

/-! ## Writes -/

theorem anchored_apply (r : Replica S) (x : S) (block : Nat) :
    (r.apply (some x) block).Anchored := by
  change ((r.history.insert block x).prune block).2.get? block = some x
  rw [History.get?_prune, if_pos (Nat.sub_le ..)]
  exact (BlockMap.get?_insert _ _ _ _).trans (if_pos rfl)

theorem keep_newer (h : r.pointer < block) : r.keep x block = r.apply (some x) block :=
  if_pos h

theorem keep_older (h : block ≤ r.pointer) : r.keep x block = r.checkpoint block x :=
  if_neg (Nat.not_lt_of_le h)

theorem pointer_keep_of_le (h : r.pointer ≤ block) : (r.keep x block).pointer = block := by
  rcases Nat.lt_or_eq_of_le h with hnewer | rfl
  · rw [keep_newer hnewer]
    rfl
  · rw [keep_older h]
    rfl

theorem anchored_keep_pointer : (r.keep x r.pointer).Anchored ↔ r.current = some x := by
  have hwritten : (r.history.insert r.pointer x).get? r.pointer = some x :=
    (BlockMap.get?_insert _ _ _ _).trans (if_pos rfl)
  rw [keep_older (Nat.le_refl _)]
  change (r.history.insert r.pointer x).get? r.pointer = r.current ↔ _
  rw [hwritten, eq_comm]

theorem anchored_keep_older (h : block < r.pointer) :
    (r.keep x block).Anchored ↔ r.Anchored := by
  rw [keep_older (Nat.le_of_lt h)]
  change (r.history.insert block x).get? r.pointer = r.current ↔ _
  rw [History.get?_insert_of_ne (Nat.ne_of_gt h)]
  rfl

/-! ## Runs -/

/-- Runs of newer blocks: what comes first is a write into both places. -/
theorem replay_newer_anchored : ∀ {runs : List Run} {r : Replica S},
    (∀ n ∈ runs.map (·.block), r.pointer < n) → (runs.map (·.block)).Pairwise (· < ·) →
    let q := (r.replay venue headers runs).1
    q.Anchored ↔ r.pointer < q.pointer ∨ r.Anchored
  | [], r, _, _ => by
      change r.Anchored ↔ r.pointer < r.pointer ∨ r.Anchored
      rw [or_iff_right (Nat.lt_irrefl _)]
  | run :: rest, r, hnewer, hsorted => by
      obtain ⟨hfirst, hrest⟩ := List.pairwise_cons.mp hsorted
      obtain ⟨hrun, hlater⟩ := List.forall_mem_cons.mp hnewer
      rw [replay]
      cases ht : r.take venue headers run with
      | error e =>
          change r.Anchored ↔ r.pointer < r.pointer ∨ r.Anchored
          rw [or_iff_right (Nat.lt_irrefl _)]
      | ok r' =>
          rcases yields_or_idle ht with ⟨x, -, rfl⟩ | ⟨-, rfl⟩
          · rw [keep_newer hrun]
            have hle : run.block ≤
                ((r.apply (some x) run.block).replay venue headers rest).1.pointer :=
              (Framed.replay rest (r.apply (some x) run.block)).le
            have ih := replay_newer_anchored (r := r.apply (some x) run.block) hfirst hrest
            exact iff_of_true (ih.mpr (Or.inr (anchored_apply r x run.block)))
              (Or.inl (Nat.lt_of_lt_of_le hrun hle))
          · exact replay_newer_anchored hlater hrest

/-- A run that is not older than the pointer is kept, and newer ones follow. -/
theorem replay_keep_anchored (venue : Venue S) (headers : Headers) {runs : List Run}
    (hle : r.pointer ≤ block)
    (hnewer : ∀ n ∈ runs.map (·.block), block < n)
    (hsorted : (runs.map (·.block)).Pairwise (· < ·)) :
    let q := ((r.keep x block).replay venue headers runs).1
    block ≤ q.pointer ∧ (q.Anchored ↔ (q.pointer = r.pointer → r.current = some x)) := by
  intro q
  have hpointer : (r.keep x block).pointer = block := pointer_keep_of_le hle
  have hq : q.Anchored ↔ (r.keep x block).pointer < q.pointer ∨ (r.keep x block).Anchored :=
    replay_newer_anchored (by rwa [hpointer]) hsorted
  have hforward : (r.keep x block).pointer ≤ q.pointer := (Framed.replay runs _).le
  rw [hpointer] at hq hforward
  refine ⟨hforward, ?_⟩
  rcases Nat.lt_or_eq_of_le hle with hmoved | rfl
  · rw [keep_newer hmoved] at hq
    refine iff_of_true (hq.mpr (Or.inr (anchored_apply r x block))) ?_
    intro hstill
    exact absurd hstill (Nat.ne_of_gt (Nat.lt_of_lt_of_le hmoved hforward))
  · rw [hq, anchored_keep_pointer]
    constructor
    · intro hanchored hstill
      exact hanchored.resolve_left (Nat.not_lt_of_le (Nat.le_of_eq hstill))
    · intro hcurrent
      rcases Nat.lt_or_eq_of_le hforward with hmoved | hstill
      · exact Or.inl hmoved
      · exact Or.inr (hcurrent hstill.symm)

/-- Runs in ascending order: the pointer's own block must not be folded to
another snapshot, or a newer one has to follow. -/
theorem replay_anchored : ∀ {runs : List Run} {r : Replica S}, r.Anchored →
    (runs.map (·.block)).Pairwise (· < ·) →
    let q := (r.replay venue headers runs).1
    q.Anchored ↔ (q.pointer = r.pointer →
      ∀ x, r.Changes venue headers runs r.pointer x → r.current = some x)
  | [], r, h, _ => by
      refine iff_of_true h ?_
      rintro - x ⟨⟩
  | run :: rest, r, h, hsorted => by
      obtain ⟨hfirst, hrest⟩ := List.pairwise_cons.mp hsorted
      rw [replay]
      cases ht : r.take venue headers run with
      | error e =>
          refine iff_of_true h ?_
          intro _ x hx
          exact absurd hx (changes_of_failure ht)
      | ok r' =>
          rcases yields_or_idle ht with ⟨y, hyields, rfl⟩ | ⟨hidle, rfl⟩
          · simp only [changes_of_yields hyields]
            rcases Nat.lt_or_ge run.block r.pointer with holder | hfrom
            · have ih := replay_anchored ((anchored_keep_older (x := y) holder).mpr h) hrest
              rw [keep_older (Nat.le_of_lt holder)] at ih ⊢
              simp only [Nat.ne_of_gt holder, false_and, false_or]
              exact ih
            · obtain ⟨hforward, hanchored⟩ :=
                replay_keep_anchored (x := y) venue headers hfrom hfirst hrest
              rw [hanchored]
              refine forall_congr' fun hstill => ⟨?_, ?_⟩
              · rintro hcurrent x (⟨-, rfl⟩ | hx)
                · exact hcurrent
                · exact absurd (hfirst _ hx.mem) (Nat.not_lt_of_le hfrom)
              · intro hcurrent
                have hblock : r.pointer = run.block := Nat.le_antisymm hfrom (hstill ▸ hforward)
                exact hcurrent y (Or.inl ⟨hblock, rfl⟩)
          · simp only [changes_of_idle ht hidle]
            exact replay_anchored h hrest

end Replica

/-! ## A first snapshot -/

namespace Progress

variable {p : Progress S} (source : Source S) (headers : Headers)

theorem generate_cases (ha : p.subscriber.replica.inactive = false) (block : Nat) :
    (p.generate source block).subscriber = p.subscriber
      ∨ ∃ fresh, (p.generate source block).subscriber =
        { p.subscriber with replica := p.subscriber.replica.apply (some fresh) block } := by
  rw [generate]
  split
  · exact Or.inl rfl
  · cases source block with
    | error e => exact Or.inl rfl
    | ok fresh =>
        refine Or.inr ⟨fresh, ?_⟩
        simp [put, Subscriber.put, ha]

/-- Without a snapshot, runs in ascending order come after the first one. -/
theorem replay_bare_anchored : ∀ {runs : List Run} {p : Progress S},
    p.subscriber.replica.Bare → p.subscriber.replica.Anchored →
    (runs.map (·.block)).Pairwise (· < ·) →
    (p.replay source headers runs).1.subscriber.replica.Anchored
  | [], _, _, h, _ => h
  | run :: rest, p, hbare, h, hsorted => by
      obtain ⟨hfirst, hrest⟩ := List.pairwise_cons.mp hsorted
      have hcases := generate_cases (p := { p with newest := max p.newest run.block }) source
        hbare.1 run.block
      rw [replay, step_of_bare source headers hbare.2]
      generalize ({ p with newest := max p.newest run.block } : Progress S).generate source
        run.block = q at hcases
      change (q.replay source headers rest).1.subscriber.replica.Anchored
      rcases hcases with hsame | ⟨fresh, hsub⟩
      · change q.subscriber = p.subscriber at hsame
        rw [← hsame] at hbare h
        exact replay_bare_anchored hbare h hrest
      · have hq : q.subscriber.replica = p.subscriber.replica.apply (some fresh) run.block := by
          rw [hsub]
        have hheld : q.subscriber.replica.Holds := by
          rw [hq]
          exact ⟨hbare.1, rfl⟩
        have hlater : ∀ n ∈ rest.map (·.block), q.subscriber.replica.pointer < n := by
          rw [hq]
          exact hfirst
        obtain ⟨-, -, hlast⟩ := replay_held source headers rest hheld
        rw [hlast]
        refine (Replica.replay_newer_anchored hlater hrest).mpr (Or.inr ?_)
        rw [hq]
        exact Replica.anchored_apply _ fresh run.block

theorem cover_anchored (ha : p.subscriber.replica.inactive = false)
    (h : p.subscriber.replica.Anchored) : (p.cover source headers).subscriber.replica.Anchored := by
  rw [cover]
  cases headers.last? with
  | none => exact h
  | some newest =>
      dsimp only
      split
      · exact h
      · rcases generate_cases (p := { p with newest := max p.newest newest.1 }) source ha newest.1
          with hsame | ⟨fresh, hsub⟩
        · rw [hsame]
          exact h
        · rw [hsub]
          exact Replica.anchored_apply _ fresh newest.1

end Progress

/-! ## Updates -/

namespace Subscriber

variable {s : Subscriber S} {logs : List Log} {headers : Headers}

theorem update_bare_anchored (hbare : s.replica.Bare) (h : s.replica.Anchored)
    (hsorted : ((runs logs).map (·.block)).Pairwise (· < ·)) (source : Source S) :
    (s.update source logs headers).subscriber.replica.Anchored := by
  rw [update_awake hbare.1]
  split
  · exact h
  · have hreplay := Progress.replay_bare_anchored (p := Progress.start s) source headers hbare h
      hsorted
    obtain ⟨r, hevolves, hsub⟩ := Progress.replay_evolves source headers (p := Progress.start s)
      hbare.1 (runs logs)
    have hawake : r.inactive = false := hevolves.awake hbare.1
    rw [applyBatch]
    generalize (Progress.start s).replay source headers (runs logs) = q at hreplay hsub
    obtain ⟨q, failure⟩ := q
    change q.subscriber = { s with replica := r } at hsub
    cases failure with
    | some e => exact hreplay
    | none =>
        have hq : q.subscriber.replica.inactive = false := by
          rw [hsub]
          exact hawake
        exact Progress.cover_anchored (p := q) source headers hq hreplay

/-- When the served snapshot and the checkpoint of the pointer are one value
after a batch in ascending order: if the pointer moved, or the logs of its own
block were folded to the snapshot that is served, or to none. -/
theorem update_anchored_iff (s : Subscriber S) (ha : s.replica.inactive = false)
    (h : s.replica.Anchored) (source : Source S) (logs : List Log) (headers : Headers)
    (hsorted : ((runs logs).map (·.block)).Pairwise (· < ·)) :
    let q := (s.update source logs headers).subscriber.replica
    q.Anchored ↔ (s.replica.hasSnapshot = true → q.pointer = s.replica.pointer →
      ∀ x, s.Changes logs headers s.replica.pointer x → s.replica.current = some x) := by
  intro q
  rcases Replica.bare_or_holds ha with hbare | hheld
  · refine iff_of_true (update_bare_anchored hbare h hsorted source) ?_
    intro hhas
    rw [hbare.2] at hhas
    cases hhas
  · have hq : q = if s.Rejects logs headers then s.replica
        else Replica.settle (s.replayed logs headers) := by
      change (s.update source logs headers).subscriber.replica = _
      rw [update_held hheld]
      split <;> rfl
    rw [hq]
    by_cases hrejects : s.Rejects logs headers
    · rw [if_pos hrejects]
      refine iff_of_true h ?_
      rintro - - x ⟨haccepts, -⟩
      exact absurd hrejects haccepts
    · rw [if_neg hrejects]
      simp only [Changes, hrejects, not_false_eq_true, true_and, hheld.2, true_implies]
      have hreplay : (s.replayed logs headers).1.Anchored ↔
          ((s.replayed logs headers).1.pointer = s.replica.pointer → _) :=
        Replica.replay_anchored h hsorted
      generalize s.replayed logs headers = result at hreplay ⊢
      obtain ⟨r, failure⟩ := result
      cases failure <;> exact hreplay

/-- A count of 11 at block 6, whose logs come again with a second one. -/
def recounted : Subscriber Counter :=
  (((new ⟨"g", "n"⟩ (Counter.venue 7) Settings.default).establish
    ⟨fun _ => .ok ⟨0⟩, none, none, .ok ()⟩ 5 (.supplied ⟨10⟩)).subscriber.update
      (fun _ => .ok ⟨0⟩) (Fork.onelog 6).logs .empty).subscriber

/-- With a newer block in the batch both agree again, on a count that has the
second log in it. -/
theorem update_anchored_followed :
    let logs := (Fork.onelog 6).logs ++ (Fork.onelog 6).logs ++ (Fork.onelog 7).logs
    let q := (recounted.update (fun _ => .ok ⟨0⟩) logs .empty).subscriber.replica
    recounted.replica.Anchored ∧ q.pointer = 7 ∧ q.current = some ⟨13⟩ ∧ q.Anchored := by
  intro logs q
  have hsorted : ((runs logs).map (·.block)).Pairwise (· < ·) := by decide
  have hmoved : q.pointer ≠ recounted.replica.pointer := by decide
  refine ⟨rfl, rfl, rfl, ?_⟩
  refine (update_anchored_iff recounted rfl rfl (fun _ => .ok ⟨0⟩) logs .empty hsorted).mpr ?_
  intro _ hstill
  exact absurd hstill hmoved

/-- Without one, 11 is served and 12 is the checkpoint. One log in the next
block then makes 13 of 11. -/
theorem update_unanchored :
    let logs := (Fork.onelog 6).logs ++ (Fork.onelog 6).logs
    let again := recounted.update (fun _ => .ok ⟨0⟩) logs .empty
    let next := again.subscriber.update (fun _ => .ok ⟨0⟩) (Fork.onelog 7).logs .empty
    recounted.replica.Anchored ∧ ((runs logs).map (·.block)).Pairwise (· < ·)
      ∧ again.result = .ok () ∧ ¬again.subscriber.replica.Anchored
      ∧ again.subscriber.replica.history.get? 6 = some ⟨12⟩
      ∧ again.subscriber.replica.current = some ⟨11⟩
      ∧ next.subscriber.replica.current = some ⟨13⟩ := by
  intro logs again next
  have hsorted : ((runs logs).map (·.block)).Pairwise (· < ·) := by decide
  have hserved : again.subscriber.replica.current = some ⟨11⟩ := rfl
  have hstored : again.subscriber.replica.history.get? 6 = some ⟨12⟩ := rfl
  refine ⟨rfl, hsorted, rfl, ?_, hstored, hserved, rfl⟩
  intro hanchored
  change again.subscriber.replica.history.get? 6 = _ at hanchored
  rw [hstored, hserved] at hanchored
  exact absurd hanchored (by decide)

end Subscriber

end ChainReplica
