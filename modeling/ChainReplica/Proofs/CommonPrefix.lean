import ChainReplica.Proofs.TrackedChain

/-!
# Where the tracked chain leaves the canonical one

When a header links to nothing, the tracked headers are compared with the
canonical ones, from the newest on, up to the first hash that both chains have.
That one look decides about every block (`Tracker.forkPoint?_parts`): up to the
fork point all tracked headers are canonical, after it none is, and without a
fork point no tracked header is.

The search finds the newest block on which both chains agree
(`Tracker.forkPoint?_eq_some_iff`). That they agree on everything before it comes
from the links of both chains (`Tracker.Linked.agrees_before`).
-/

namespace ChainReplica

theorem BlockMap.first?_eq_some_iff {α : Type} {m : BlockMap α} {e : Nat × α} :
    m.first? = some e ↔ e ∈ m.entries ∧ ∀ e' ∈ m.entries, e.1 ≤ e'.1 := by
  have hascending := m.ascending
  rw [first?]
  generalize m.entries = entries at hascending
  cases entries with
  | nil => simp
  | cons head rest =>
      have hlater := (List.pairwise_cons.mp hascending).1
      rw [List.head?_cons, Option.some.injEq]
      constructor
      · rintro rfl
        refine ⟨List.mem_cons_self, fun e' he' => ?_⟩
        rcases List.mem_cons.mp he' with rfl | he'
        · exact Nat.le_refl _
        · exact Nat.le_of_lt (hlater e' he')
      · rintro ⟨he, hmin⟩
        rcases List.mem_cons.mp he with rfl | he
        · rfl
        · exact absurd (hmin head List.mem_cons_self) (Nat.not_le_of_lt (hlater e he))

namespace Tracker

variable {t : Tracker} {canonical : Headers} {g : Header} {n fork newest : Nat}

/-- A block is tracked under its canonical hash. -/
def Agrees (t : Tracker) (canonical : Headers) (n : Nat) : Prop :=
  ∃ g c, t.header? n = some g ∧ canonical.get? n = some c ∧ c.hash = g.hash

/-- Canonical headers that tracked ones are compared with: those from the oldest
tracked block up to the newest one, each on the one before. -/
structure Canonical (t : Tracker) (newest : Nat) (canonical : Headers) : Prop where
  covers : ∀ {oldest}, t.oldest? = some oldest →
    ∀ n, (∃ c, canonical.get? n = some c) ↔ oldest ≤ n ∧ n ≤ newest
  linked : ∀ {n p c}, canonical.get? n = some p → canonical.get? (n + 1) = some c →
    c.parent = p.hash
  /-- Headers of one block with one hash name one parent. -/
  hashed : ∀ {n g c}, t.header? n = some g → canonical.get? n = some c → c.hash = g.hash →
    c.parent = g.parent

/-! ## The search -/

theorem agrees_iff : t.Agrees canonical n ↔
    ∃ e ∈ t.headers.entries, e.1 = n ∧
      ((canonical.get? e.1).any fun c => c.hash == e.2.hash) = true := by
  simp only [Agrees, header?, BlockMap.get?_eq_some_iff, Option.any_eq_true, beq_iff_eq,
    Prod.exists]
  constructor
  · rintro ⟨g, c, hg, hc, hhash⟩
    exact ⟨n, g, hg, rfl, c, hc, hhash⟩
  · rintro ⟨_, g, hg, rfl, c, hc, hhash⟩
    exact ⟨g, c, hg, hc, hhash⟩

/-- The fork point is the newest block on which both chains agree. -/
theorem forkPoint?_eq_some_iff : t.forkPoint? canonical = some fork ↔
    t.Agrees canonical fork ∧ ∀ n, t.Agrees canonical n → n ≤ fork := by
  rw [forkPoint?, ← List.getLast?_filter, Option.map_eq_some_iff]
  simp only [BlockMap.getLast?_eq_some_iff_of_ascending (t.headers.ascending.filter _),
    List.mem_filter, and_imp]
  constructor
  · rintro ⟨e, ⟨⟨he, hshared⟩, hmax⟩, rfl⟩
    refine ⟨agrees_iff.mpr ⟨e, he, rfl, hshared⟩, fun n hn => ?_⟩
    obtain ⟨e', he', rfl, hshared'⟩ := agrees_iff.mp hn
    exact hmax e' he' hshared'
  · rintro ⟨hfork, hmax⟩
    obtain ⟨e, he, rfl, hshared⟩ := agrees_iff.mp hfork
    refine ⟨e, ⟨⟨he, hshared⟩, fun e' he' hshared' => ?_⟩, rfl⟩
    exact hmax e'.1 (agrees_iff.mpr ⟨e', he', rfl, hshared'⟩)

theorem forkPoint?_eq_none_iff :
    t.forkPoint? canonical = none ↔ ∀ n, ¬t.Agrees canonical n := by
  rw [forkPoint?, ← List.getLast?_filter, Option.map_eq_none_iff, List.getLast?_eq_none_iff,
    List.filter_eq_nil_iff]
  constructor
  · intro hnone n hn
    obtain ⟨e, he, rfl, hshared⟩ := agrees_iff.mp hn
    exact hnone e he hshared
  · exact fun hnone e he hshared => hnone e.1 (agrees_iff.mpr ⟨e, he, rfl, hshared⟩)

/-! ## Down both chains -/

theorem exists_oldest (hg : t.header? n = some g) :
    ∃ oldest, t.oldest? = some oldest ∧ oldest ≤ n := by
  have hmem : (n, g) ∈ t.headers.entries := BlockMap.get?_eq_some_iff.mp hg
  cases hfirst : t.headers.first? with
  | none =>
      rw [BlockMap.first?, List.head?_eq_none_iff] at hfirst
      rw [hfirst] at hmem
      cases hmem
  | some e =>
      refine ⟨e.1, ?_, (BlockMap.first?_eq_some_iff.mp hfirst).2 _ hmem⟩
      rw [oldest?, hfirst, Option.map_some]

namespace Canonical

/-- A tracked block up to the newest canonical one has a canonical header. -/
theorem exists_header (hc : t.Canonical newest canonical) (hg : t.header? n = some g)
    (hn : n ≤ newest) : ∃ c, canonical.get? n = some c := by
  obtain ⟨oldest, holdest, hle⟩ := exists_oldest hg
  exact (hc.covers holdest n).mpr ⟨hle, hn⟩

theorem le_newest (hc : t.Canonical newest canonical) (h : t.Agrees canonical n) :
    n ≤ newest := by
  obtain ⟨g, c, hg, hcanonical, -⟩ := h
  obtain ⟨oldest, holdest, -⟩ := exists_oldest hg
  exact ((hc.covers holdest n).mp ⟨c, hcanonical⟩).2

end Canonical

namespace Linked

/-- Headers with one hash have one parent, so chains that agree on a block agree
on the one before. -/
theorem agrees_previous (h : t.Linked) (hc : t.Canonical newest canonical)
    (hagrees : t.Agrees canonical (n + 1)) (hg : t.header? n = some g) :
    t.Agrees canonical n := by
  have hle := hc.le_newest hagrees
  obtain ⟨c, hcanonical⟩ := hc.exists_header hg (Nat.le_of_succ_le hle)
  obtain ⟨g', c', hg', hcanonical', hhash⟩ := hagrees
  refine ⟨g, c, hg, hcanonical, ?_⟩
  calc c.hash = c'.parent := (hc.linked hcanonical hcanonical').symm
    _ = g'.parent := hc.hashed hg' hcanonical' hhash
    _ = g.hash := h.linked hg hg'

theorem agrees_before (h : t.Linked) (hc : t.Canonical newest canonical)
    (hfork : t.Agrees canonical fork) (hg : t.header? n = some g) (hn : n ≤ fork) :
    t.Agrees canonical n := by
  obtain ⟨g', c', hg', hcanonical', hhash⟩ := hfork
  -- Every block in between is tracked, so the step down never leaves the tracker.
  refine Nat.decreasingInduction' (P := t.Agrees canonical) (fun k hk hnk hnext => ?_) hn
    ⟨g', c', hg', hcanonical', hhash⟩
  obtain ⟨x, hx⟩ := h.contiguous hg hg' k hnk (Nat.le_of_lt hk)
  exact h.agrees_previous hc hnext hx

end Linked

/-! ## The fork point -/

/-- The fork point parts the tracked chain where it leaves the canonical one. A
tracked header that has a canonical one beside it has the same hash exactly up to
the fork point, and what a rewind to it leaves is canonical. Without a fork point
no tracked header has a canonical hash. -/
theorem forkPoint?_parts (depth : Nat) (calls : List Call) (newest : Nat) (canonical : Headers)
    (hcanonical : ((new depth).run calls).Canonical newest canonical) :
    let t := (new depth).run calls
    match t.forkPoint? canonical with
    | some fork => fork ≤ newest
        ∧ (∀ n g, t.header? n = some g → n ≤ newest →
            ∃ c, canonical.get? n = some c ∧ (c.hash = g.hash ↔ n ≤ fork))
        ∧ ∀ n g, (t.rewind fork).header? n = some g →
            ∃ c, canonical.get? n = some c ∧ c.hash = g.hash
    | none => ∀ n g, t.header? n = some g → n ≤ newest →
        ∃ c, canonical.get? n = some c ∧ c.hash ≠ g.hash := by
  intro t
  have h : t.Linked := ((Linked.new depth).run calls).1
  change t.Canonical newest canonical at hcanonical
  cases hsearch : t.forkPoint? canonical with
  | none =>
      intro n g hg hn
      obtain ⟨c, hc⟩ := hcanonical.exists_header hg hn
      exact ⟨c, hc, fun hhash => forkPoint?_eq_none_iff.mp hsearch n ⟨g, c, hg, hc, hhash⟩⟩
  | some fork =>
      obtain ⟨hfork, hmax⟩ := forkPoint?_eq_some_iff.mp hsearch
      refine ⟨hcanonical.le_newest hfork, fun n g hg hn => ?_, fun n g hg => ?_⟩
      · obtain ⟨c, hc⟩ := hcanonical.exists_header hg hn
        refine ⟨c, hc, fun hhash => hmax n ⟨g, c, hg, hc, hhash⟩, fun hle => ?_⟩
        obtain ⟨g', c', hg', hc', hhash⟩ := h.agrees_before hcanonical hfork hg hle
        obtain rfl : g = g' := Option.some.inj (hg.symm.trans hg')
        obtain rfl : c = c' := Option.some.inj (hc.symm.trans hc')
        exact hhash
      · obtain ⟨hle, hg⟩ := header?_of_rewind hg
        obtain ⟨g', c, hg', hc, hhash⟩ := h.agrees_before hcanonical hfork hg hle
        obtain rfl : g = g' := Option.some.inj (hg.symm.trans hg')
        exact ⟨c, hc, hhash⟩

/-- A header on the branch that begins after block 101, or on the chain before it. -/
def branched (fork n : Nat) : Header :=
  let hash (m : Nat) : Hash := BitVec.ofNat 256 (if m ≤ 101 then m else 1000 * fork + m)
  ⟨n, hash n, hash (n - 1), 12 * n⟩

/-- Four blocks of one branch are tracked, and the other one is canonical. -/
theorem forkPoint?_parts_branches :
    let t := (new 16).run ((List.range' 100 4).map fun n => .observe (branched 0 n))
    let canonical := BlockMap.ofList ((List.range' 100 4).map fun n => (n, branched 1 n))
    t.Canonical 103 canonical ∧ t.forkPoint? canonical = some 101
      ∧ ∀ n g, t.header? n = some g → n ≤ 103 →
        ∃ c, canonical.get? n = some c ∧ (c.hash = g.hash ↔ n ≤ 101) := by
  intro t canonical
  have hkeys : ∀ n, canonical.get? n =
      if n ∈ List.range' 100 4 then some (branched 1 n) else none := fun n => BlockMap.get?_ofList
  have hcanonical : t.Canonical 103 canonical := by
    refine ⟨fun {oldest} holdest n => ?_, fun {n p c} hp hc => ?_, fun {n g c} hg hc hhash => ?_⟩
    · obtain rfl : 100 = oldest := by
        have hfirst : t.oldest? = some 100 := rfl
        exact Option.some.inj (hfirst.symm.trans holdest)
      simp only [hkeys, List.mem_range'_1]
      split <;> simp <;> omega
    · have hlinks : ∀ e ∈ canonical.entries, ∀ e' ∈ canonical.entries, e'.1 = e.1 + 1 →
          e'.2.parent = e.2.hash := by decide
      exact hlinks _ (BlockMap.get?_eq_some_iff.mp hp) _ (BlockMap.get?_eq_some_iff.mp hc) rfl
    · have hparents : ∀ e ∈ t.headers.entries, ∀ e' ∈ canonical.entries, e'.1 = e.1 →
          e'.2.hash = e.2.hash → e'.2.parent = e.2.parent := by decide
      exact hparents _ (BlockMap.get?_eq_some_iff.mp hg) _ (BlockMap.get?_eq_some_iff.mp hc) rfl
        hhash
  obtain ⟨-, hparts, -⟩ := forkPoint?_parts 16
    ((List.range' 100 4).map fun n => .observe (branched 0 n)) 103 canonical hcanonical
  exact ⟨hcanonical, rfl, hparts⟩

end Tracker

end ChainReplica
