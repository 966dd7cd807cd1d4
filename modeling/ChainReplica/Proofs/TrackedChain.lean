import Mathlib.Data.Nat.Find
import ChainReplica.Proofs.Checkpoints
import ChainReplica.Tracker

/-!
# A tracker holds one linked chain

Whatever headers a tracker is shown, and whenever it is told to rewind, it holds
headers of consecutive blocks, each naming the one before as its parent, and not
more of them than its depth (`Tracker.run_linked`). What it answers about a new
header is true of what it holds before and after: a reorganization keeps the
blocks up to the fork point, drops as many after it as the answer says, and puts
the new header there.

The invariant is `Tracker.Linked`. Its `span` bounds the distance of two tracked
blocks and not their number: the bound on the number follows, since the blocks
are consecutive, and so does the reported depth of a reorganization, which is a
difference of block numbers.
-/

namespace ChainReplica

/-! ## Consecutive blocks -/

namespace BlockMap

variable {α : Type} {m : BlockMap α} {first count n : Nat}

theorem last?_eq_some_iff {e : Nat × α} :
    m.last? = some e ↔ e ∈ m.entries ∧ ∀ e' ∈ m.entries, e'.1 ≤ e.1 :=
  getLast?_eq_some_iff_of_ascending m.ascending

theorem mem_blocks : n ∈ m.blocks ↔ ∃ x, m.get? n = some x := by
  simp only [blocks, List.mem_map, get?_eq_some_iff]
  constructor
  · rintro ⟨⟨b, x⟩, he, rfl⟩
    exact ⟨x, he⟩
  · rintro ⟨x, he⟩
    exact ⟨_, he, rfl⟩

theorem blocks_ascending (m : BlockMap α) : m.blocks.Pairwise (· < ·) :=
  List.pairwise_map.mpr m.ascending

/-- The blocks of a range without gaps, in order. -/
theorem blocks_eq_range' (h : ∀ n, n ∈ m.blocks ↔ first ≤ n ∧ n < first + count) :
    m.blocks = List.range' first count := by
  have hrange : (List.range' first count).Pairwise (· < ·) := List.pairwise_lt_range' 1
  have hperm : m.blocks.Perm (List.range' first count) :=
    (List.perm_ext_iff_of_nodup (m.blocks_ascending.imp Nat.ne_of_lt)
      (hrange.imp Nat.ne_of_lt)).mpr fun n => (h n).trans List.mem_range'_1.symm
  refine hperm.eq_of_pairwise ?_ m.blocks_ascending hrange
  intro a b _ _ hab hba
  exact absurd hab (Nat.lt_asymm hba)

theorem size_eq_length_blocks : m.size = m.blocks.length :=
  (List.length_map _).symm

end BlockMap

/-! ## The invariant -/

namespace Tracker

variable {t : Tracker} {x g tip : Header} {n : Nat}

/-- The tracked headers are one chain, and not further apart than the depth. -/
structure Linked (t : Tracker) : Prop where
  positive : 0 < t.depth
  /-- Every header is tracked under its own number. -/
  keyed : ∀ {n h}, t.header? n = some h → h.number = n
  contiguous : ∀ {m n g h}, t.header? m = some g → t.header? n = some h →
    ∀ k, m ≤ k → k ≤ n → ∃ x, t.header? k = some x
  linked : ∀ {n p h}, t.header? n = some p → t.header? (n + 1) = some h → h.parent = p.hash
  span : ∀ {m n g h}, t.header? m = some g → t.header? n = some h → n < m + t.depth

/-- A header may be put on top of a chain that ends right before it with its
parent, and on an empty one. -/
def Onto (t : Tracker) (x : Header) : Prop :=
  ∀ n g, t.header? n = some g →
    ∃ k p, x.number = k + 1 ∧ n ≤ k ∧ t.header? k = some p ∧ p.hash = x.parent

theorem Onto.lt (h : t.Onto x) (hg : t.header? n = some g) : n < x.number := by
  obtain ⟨k, p, hk, hle, -⟩ := h n g hg
  omega

theorem header?_record (n : Nat) : (t.record x).header? n =
    if x.number < n + t.depth then if n = x.number then some x else t.header? n else none := by
  simp only [header?, record, BlockMap.get?_filter, BlockMap.get?_insert, decide_eq_true_eq]

theorem header?_rewind (fork n : Nat) :
    (t.rewind fork).header? n = if n ≤ fork then t.header? n else none := by
  simp only [header?, rewind, BlockMap.get?_filter, decide_eq_true_eq]

theorem header?_of_rewind {fork : Nat} (h : (t.rewind fork).header? n = some g) :
    n ≤ fork ∧ t.header? n = some g := by
  rw [header?_rewind] at h
  split at h
  · rename_i hle
    exact ⟨hle, h⟩
  · cases h

theorem header?_of_record (h : (t.record x).header? n = some g) :
    x.number < n + t.depth ∧ ((n = x.number ∧ g = x) ∨ (n ≠ x.number ∧ t.header? n = some g)) := by
  rw [header?_record] at h
  split at h
  · rename_i hnear
    refine ⟨hnear, ?_⟩
    split at h
    · rename_i hn
      exact Or.inl ⟨hn, (Option.some.inj h).symm⟩
    · rename_i hn
      exact Or.inr ⟨hn, h⟩
  · cases h

theorem header?_new (depth n : Nat) : (new depth).header? n = none := rfl

theorem header?_reset (n : Nat) : t.reset.header? n = none := rfl

/-! ## The tip -/

theorem entries_of_tip?_none (h : t.tip? = none) : t.headers.entries = [] := by
  rwa [tip?, Option.map_eq_none_iff, BlockMap.last?, List.getLast?_eq_none_iff] at h

theorem header?_of_tip?_none (h : t.tip? = none) (n : Nat) : t.header? n = none := by
  simp [header?, BlockMap.get?, entries_of_tip?_none h]

theorem tip?_of_greatest (h : t.header? n = some x)
    (hle : ∀ m g, t.header? m = some g → m ≤ n) : t.tip? = some x := by
  have hlast : t.headers.last? = some (n, x) :=
    BlockMap.last?_eq_some_iff.mpr ⟨BlockMap.get?_eq_some_iff.mp h,
      fun e he => hle e.1 e.2 (BlockMap.get?_eq_some_iff.mpr he)⟩
  rw [tip?, hlast, Option.map_some]

namespace Linked

theorem tip_greatest (h : t.Linked) (htip : t.tip? = some tip) :
    t.header? tip.number = some tip ∧ ∀ n g, t.header? n = some g → n ≤ tip.number := by
  obtain ⟨e, he, rfl⟩ := Option.map_eq_some_iff.mp htip
  obtain ⟨hmem, hmax⟩ := BlockMap.last?_eq_some_iff.mp he
  have hget : t.header? e.1 = some e.2 := BlockMap.get?_eq_some_iff.mpr hmem
  rw [h.keyed hget]
  exact ⟨hget, fun n g hg => hmax _ (BlockMap.get?_eq_some_iff.mp hg)⟩

theorem empty (hpos : 0 < t.depth) (hnone : ∀ n, t.header? n = none) : t.Linked := by
  constructor
  · exact hpos
  all_goals
    intros
    simp_all

theorem new (depth : Nat) : (new depth).Linked :=
  empty (Nat.le_max_right ..) (header?_new depth)

theorem noteReorg (h : t.Linked) : t.noteReorg.Linked :=
  ⟨h.positive, h.keyed, h.contiguous, h.linked, h.span⟩

theorem rewind (h : t.Linked) (fork : Nat) : (t.rewind fork).Linked where
  positive := h.positive
  keyed hn := h.keyed (header?_of_rewind hn).2
  contiguous hm hn k hmk hkn := by
    obtain ⟨hle, hn⟩ := header?_of_rewind hn
    rw [header?_rewind, if_pos (Nat.le_trans hkn hle)]
    exact h.contiguous (header?_of_rewind hm).2 hn k hmk hkn
  linked hp hn := h.linked (header?_of_rewind hp).2 (header?_of_rewind hn).2
  span hm hn := h.span (header?_of_rewind hm).2 (header?_of_rewind hn).2

theorem contiguous_record (h : t.Linked) (honto : t.Onto x) {m n : Nat} {g g' : Header}
    (hm : (t.record x).header? m = some g) (hn : (t.record x).header? n = some g') (k : Nat)
    (hmk : m ≤ k) (hkn : k ≤ n) : ∃ y, (t.record x).header? k = some y := by
  obtain ⟨hnear, hm⟩ := header?_of_record hm
  obtain ⟨-, hn⟩ := header?_of_record hn
  rw [header?_record, if_pos (by omega)]
  split
  · exact ⟨x, rfl⟩
  · -- Below the new header everything from an old one up to its parent is there.
    rename_i hk
    have hold : ∃ b q, t.header? b = some q ∧ k ≤ b := by
      rcases hn with ⟨rfl, rfl⟩ | ⟨-, hn⟩
      · rcases hm with ⟨rfl, rfl⟩ | ⟨-, hm⟩
        · omega
        · obtain ⟨b, q, hb, -, hq, -⟩ := honto m g hm
          exact ⟨b, q, hq, by omega⟩
      · exact ⟨n, g', hn, hkn⟩
    obtain ⟨b, q, hq, hkb⟩ := hold
    have hqb := honto.lt hq
    rcases hm with ⟨rfl, rfl⟩ | ⟨-, hm⟩
    · omega
    · exact h.contiguous hm hq k hmk hkb

theorem linked_record (h : t.Linked) (honto : t.Onto x) {p : Header}
    (hp : (t.record x).header? n = some p) (hg : (t.record x).header? (n + 1) = some g) :
    g.parent = p.hash := by
  obtain ⟨-, ⟨hn, -⟩ | ⟨-, hp'⟩⟩ := header?_of_record hp
  · obtain ⟨-, ⟨hself, -⟩ | ⟨-, hg'⟩⟩ := header?_of_record hg
    · omega
    · have := honto.lt hg'
      omega
  · obtain ⟨-, ⟨hself, hsame⟩ | ⟨-, hg'⟩⟩ := header?_of_record hg
    · obtain ⟨k, q, hk, -, hq, hparent⟩ := honto n p hp'
      obtain rfl : k = n := by omega
      obtain rfl : q = p := Option.some.inj (hq.symm.trans hp')
      rw [hsame, hparent]
    · exact h.linked hp' hg'

theorem record (h : t.Linked) (honto : t.Onto x) : (t.record x).Linked where
  positive := h.positive
  keyed hg := by
    obtain ⟨-, ⟨rfl, rfl⟩ | ⟨-, hg⟩⟩ := header?_of_record hg
    · rfl
    · exact h.keyed hg
  contiguous := h.contiguous_record honto
  linked := h.linked_record honto
  span := by
    intro m n g g' hm hn
    obtain ⟨hnear, hm⟩ := header?_of_record hm
    obtain ⟨-, hn⟩ := header?_of_record hn
    show n < m + t.depth
    rcases hn with ⟨rfl, -⟩ | ⟨-, hn⟩
    · exact hnear
    · have := honto.lt hn
      omega

theorem header?_record_self (h : t.Linked) : (t.record x).header? x.number = some x := by
  rw [header?_record, if_pos (Nat.lt_add_of_pos_right h.positive), if_pos rfl]

theorem tip?_record (h : t.Linked) (honto : t.Onto x) : (t.record x).tip? = some x := by
  refine tip?_of_greatest h.header?_record_self fun m g hg => ?_
  obtain ⟨-, ⟨rfl, -⟩ | ⟨-, hg⟩⟩ := header?_of_record hg
  · exact Nat.le_refl _
  · exact Nat.le_of_lt (honto.lt hg)

/-! ## How many headers are tracked -/

/-- From a tracked block to the tip there is one header for every number. -/
theorem blocks_eq (h : t.Linked) (htip : t.tip? = some tip) :
    ∃ first, t.headers.blocks = List.range' first (tip.number + 1 - first)
      ∧ first ≤ tip.number ∧ tip.number < first + t.depth := by
  obtain ⟨hself, hmax⟩ := h.tip_greatest htip
  have hex : ∃ n, ∃ g, t.header? n = some g := ⟨tip.number, tip, hself⟩
  classical
  obtain ⟨g, hg⟩ := Nat.find_spec hex
  have hmin : ∀ n g, t.header? n = some g → Nat.find hex ≤ n :=
    fun n g hn => Nat.find_min' hex ⟨g, hn⟩
  generalize Nat.find hex = first at hg hmin
  refine ⟨first, BlockMap.blocks_eq_range' fun n => ?_, hmin _ _ hself, h.span hg hself⟩
  rw [BlockMap.mem_blocks]
  constructor
  · rintro ⟨x, hx⟩
    have := hmin n x hx
    have := hmax n x hx
    omega
  · rintro ⟨hge, hlt⟩
    exact h.contiguous hg hself n hge (by omega)

theorem size_le (h : t.Linked) : t.headers.size ≤ t.depth := by
  cases htip : t.tip? with
  | none =>
      rw [BlockMap.size, entries_of_tip?_none htip]
      exact Nat.zero_le _
  | some tip =>
      obtain ⟨first, hblocks, hle, hlt⟩ := h.blocks_eq htip
      rw [BlockMap.size_eq_length_blocks, hblocks, List.length_range']
      omega

/-- After a tracked block there are as many headers as the tip is ahead of it. -/
theorem size_after (h : t.Linked) (htip : t.tip? = some tip) {fork : Nat} {p : Header}
    (hfork : t.header? fork = some p) :
    (t.headers.filter fun b => fork < b).size = tip.number - fork := by
  obtain ⟨hself, hmax⟩ := h.tip_greatest htip
  have hblocks : (t.headers.filter fun b => fork < b).blocks
      = List.range' (fork + 1) (tip.number - fork) := by
    refine BlockMap.blocks_eq_range' fun n => ?_
    rw [BlockMap.mem_blocks, BlockMap.get?_filter]
    constructor
    · rintro ⟨g, hg⟩
      split at hg
      · rename_i hlt
        have hle := hmax n g hg
        have := of_decide_eq_true hlt
        omega
      · cases hg
    · rintro ⟨hge, hlt⟩
      rw [if_pos (decide_eq_true (by omega))]
      exact h.contiguous hfork hself n (by omega) (by omega)
  rw [BlockMap.size_eq_length_blocks, hblocks, List.length_range']

end Linked

/-! ## New headers -/

/-- What the answer about a header says of the tracker before and after. -/
def Answers (t : Tracker) (x : Header) : Linkage × Tracker → Prop
  | (.extended, u) => u.tip? = some x ∧ u.reorgs = t.reorgs
      ∧ (t.tip? = none
        ∨ ∃ tip, t.tip? = some tip ∧ x.number = tip.number + 1 ∧ x.parent = tip.hash)
  | (.known, u) => u = t ∧ ∃ g, t.header? x.number = some g ∧ g.hash = x.hash
  | (.unlinked number, u) => u = t ∧ number = x.number
  | (.reorg fork dropped, u) => x.number = fork + 1 ∧ u.tip? = some x ∧ u.reorgs = t.reorgs + 1
      ∧ (∀ n ≤ fork, u.header? n = t.header? n)
      ∧ (∀ n g, fork < n → u.header? n = some g → g = x)
      ∧ (∀ g, t.header? x.number = some g → g.hash ≠ x.hash)
      ∧ 1 ≤ dropped ∧ (t.headers.filter fun b => fork < b).size = dropped

theorem parent?_eq_some (h : t.parent? x = some g) :
    ∃ k, x.number = k + 1 ∧ t.header? k = some g := by
  rw [parent?] at h
  split at h
  · cases h
  · rename_i hpos
    exact ⟨x.number - 1, by omega, h⟩

theorem knows_iff : t.knows x = true ↔ ∃ g, t.header? x.number = some g ∧ g.hash = x.hash := by
  simp only [knows, header?, Option.any_eq_true, beq_iff_eq]

/-! Every way to observe a header, as an equation. -/

theorem observe_first (htip : t.tip? = none) : t.observe x = (.extended, t.record x) := by
  simp only [observe, htip]

theorem observe_known (htip : t.tip? = some tip) (hknown : t.knows x = true) :
    t.observe x = (.known, t) := by
  simp only [observe, htip, hknown, if_true]

theorem observe_next (htip : t.tip? = some tip) (hnew : t.knows x = false)
    (hparent : t.parent? x = some g) (hhash : g.hash = x.parent)
    (hnext : x.number = tip.number + 1) : t.observe x = (.extended, t.record x) := by
  simp [observe, htip, hnew, hparent, hhash, hnext]

theorem observe_sibling (htip : t.tip? = some tip) (hnew : t.knows x = false)
    (hparent : t.parent? x = some g) (hhash : g.hash = x.parent)
    (hnext : x.number ≠ tip.number + 1) :
    t.observe x = (.reorg g.number (tip.number - g.number),
      (t.noteReorg.rewind g.number).record x) := by
  simp [observe, htip, hnew, hparent, hhash, hnext]

theorem observe_stray (htip : t.tip? = some tip) (hnew : t.knows x = false)
    (hstray : ∀ g, t.parent? x = some g → g.hash ≠ x.parent) :
    t.observe x = (.unlinked x.number, t) := by
  cases hparent : t.parent? x with
  | none => simp [observe, htip, hnew, hparent]
  | some g => simp [observe, htip, hnew, hparent, hstray g hparent]

namespace Linked

/-- The headers up to a tracked parent, with the new header on top. -/
theorem record_onto (h : t.Linked) {k : Nat} (hk : x.number = k + 1)
    (hp : t.header? k = some g) (hparent : g.hash = x.parent)
    (hle : ∀ n q, t.header? n = some q → n ≤ k) :
    (t.record x).Linked ∧ (t.record x).tip? = some x := by
  have honto : t.Onto x := fun n q hq => ⟨k, g, hk, hle n q hq, hp, hparent⟩
  exact ⟨h.record honto, h.tip?_record honto⟩

/-- A header on a tracked block that is not the tip replaces what is after it. The
depth drops nothing that was tracked up to there, since the new header is behind
the tip. -/
theorem record_rewound (h : t.Linked) (htip : t.tip? = some tip) {k : Nat}
    (hk : x.number = k + 1) (hp : t.header? k = some g) (hparent : g.hash = x.parent)
    (hbehind : k < tip.number) :
    let u := (t.noteReorg.rewind k).record x
    u.Linked ∧ u.tip? = some x ∧ (∀ n ≤ k, u.header? n = t.header? n)
      ∧ ∀ n q, k < n → u.header? n = some q → q = x := by
  intro u
  have hself := (h.tip_greatest htip).1
  have hp' : (t.noteReorg.rewind k).header? k = some g := by
    rw [header?_rewind, if_pos (Nat.le_refl k)]
    exact hp
  obtain ⟨hlinked, htip'⟩ := (h.noteReorg.rewind k).record_onto hk hp' hparent
    fun n q hq => (header?_of_rewind hq).1
  refine ⟨hlinked, htip', fun n hn => ?_, fun n q hn hq => ?_⟩
  · rw [header?_record, header?_rewind, if_pos hn]
    change (if x.number < n + t.depth then if n = x.number then some x else t.header? n else none)
      = t.header? n
    rw [if_neg (by omega : ¬n = x.number)]
    cases hq : t.header? n with
    | none => exact ite_self none
    | some q =>
        have := h.span hq hself
        exact if_pos (by omega)
  · obtain ⟨-, ⟨-, hsame⟩ | ⟨-, hold⟩⟩ := header?_of_record hq
    · exact hsame
    · have := (header?_of_rewind hold).1
      omega

/-- A header is put on top of the chain, replaces what is after its parent, or is
left alone. -/
theorem observe (h : t.Linked) (x : Header) :
    (t.observe x).2.Linked ∧ t.Answers x (t.observe x) := by
  cases htip : t.tip? with
  | none =>
      have honto : t.Onto x := by
        intro n g hg
        rw [header?_of_tip?_none htip n] at hg
        cases hg
      rw [observe_first htip]
      exact ⟨h.record honto, h.tip?_record honto, rfl, Or.inl htip⟩
  | some tip =>
      obtain ⟨hself, hmax⟩ := h.tip_greatest htip
      cases hknown : t.knows x with
      | true =>
          rw [observe_known htip hknown]
          exact ⟨h, rfl, knows_iff.mp hknown⟩
      | false =>
          by_cases hon : ∃ g, t.parent? x = some g ∧ g.hash = x.parent
          · obtain ⟨g, hparent, hhash⟩ := hon
            obtain ⟨k, hk, hp⟩ := parent?_eq_some hparent
            obtain rfl : g.number = k := h.keyed hp
            have hle := hmax _ _ hp
            by_cases hnext : x.number = tip.number + 1
            · obtain rfl : g = tip := by
                have hsame : g.number = tip.number := by omega
                rw [hsame] at hp
                exact Option.some.inj (hp.symm.trans hself)
              rw [observe_next htip hknown hparent hhash hnext]
              obtain ⟨hlinked, htip'⟩ := h.record_onto hk hp hhash hmax
              exact ⟨hlinked, htip', rfl, Or.inr ⟨g, htip, hnext, hhash.symm⟩⟩
            · rw [observe_sibling htip hknown hparent hhash hnext]
              obtain ⟨hlinked, htip', hkept, hafter⟩ :=
                h.record_rewound htip hk hp hhash (by omega)
              refine ⟨hlinked, hk, htip', rfl, hkept, hafter, fun q hq hsame => ?_, by omega,
                h.size_after htip hp⟩
              exact Bool.eq_false_iff.mp hknown (knows_iff.mpr ⟨q, hq, hsame⟩)
          · rw [observe_stray htip hknown fun g hg hhash => hon ⟨g, hg, hhash⟩]
            exact ⟨h, rfl, rfl⟩

end Linked

/-! ## Runs -/

inductive Call where
  | observe (header : Header)
  | rewind (forkPoint : Nat)
  | reset
  | noteReorg

def call (t : Tracker) : Call → Tracker
  | .observe header => (t.observe header).2
  | .rewind forkPoint => t.rewind forkPoint
  | .reset => t.reset
  | .noteReorg => t.noteReorg

def run (t : Tracker) (calls : List Call) : Tracker := calls.foldl call t

theorem observe_depth (t : Tracker) (x : Header) : (t.observe x).2.depth = t.depth := by
  rw [observe]
  repeat' split
  all_goals rfl

theorem call_depth (t : Tracker) (c : Call) : (t.call c).depth = t.depth := by
  cases c with
  | observe header => exact observe_depth t header
  | _ => rfl

theorem Linked.call (h : t.Linked) (c : Call) : (t.call c).Linked := by
  cases c with
  | observe header => exact (h.observe header).1
  | rewind forkPoint => exact h.rewind forkPoint
  | reset => exact .empty h.positive header?_reset
  | noteReorg => exact h.noteReorg

theorem Linked.run (h : t.Linked) (calls : List Call) :
    (t.run calls).Linked ∧ (t.run calls).depth = t.depth := by
  induction calls generalizing t with
  | nil => exact ⟨h, rfl⟩
  | cons c rest ih =>
      obtain ⟨hlinked, hdepth⟩ := ih (h.call c)
      exact ⟨hlinked, hdepth.trans (call_depth t c)⟩

/-- After any calls a tracker holds the headers of consecutive blocks, each under
its own number, each on the one before, and no more of them than its depth. What
it then answers about any header is what it does with it. -/
theorem run_linked (depth : Nat) (calls : List Call) :
    let t := (new depth).run calls
    (∃ first, t.headers.blocks = List.range' first t.headers.size)
      ∧ (∀ n h, t.header? n = some h → h.number = n)
      ∧ (∀ n p h, t.header? n = some p → t.header? (n + 1) = some h → h.parent = p.hash)
      ∧ t.headers.size ≤ max depth 1
      ∧ ∀ x, t.Answers x (t.observe x) := by
  intro t
  obtain ⟨h, hdepth⟩ := (Linked.new depth).run calls
  change t.Linked at h
  refine ⟨?_, fun n g => h.keyed, fun n p g => h.linked, ?_, fun x => (h.observe x).2⟩
  · cases htip : t.tip? with
    | none =>
        exact ⟨0, by simp [BlockMap.blocks, BlockMap.size, entries_of_tip?_none htip]⟩
    | some tip =>
        obtain ⟨first, hblocks, -⟩ := h.blocks_eq htip
        refine ⟨first, ?_⟩
        rw [BlockMap.size_eq_length_blocks, hblocks, List.length_range']
  · have hsize := h.size_le
    rwa [show t.depth = max depth 1 from hdepth] at hsize

end Tracker

end ChainReplica
