import ChainReplica.Proofs.Delivery
import ChainReplica.Proofs.Rollback

/-!
# A mirror of one branch becomes a mirror of the other

A subscriber that mirrors a chain and goes back to a block mirrors the chain up to
that block, if the checkpoint it returns to is still there (`Mirrors.rewind`). Two
branches are folded alike up to the last block they share
(`SharesUpTo.mirrors`), so from there on the subscriber mirrors the other branch.

`Reaches` says which checkpoints are there for sure: those of the last blocks, as
many as the retention window allows. The next block of the chain keeps it
(`Reaches.receive`).
-/

namespace ChainReplica

namespace ChainFold

variable {S : Type} {f g : ChainFold S} {newest fork c n window : Nat} {r : Replica S}
  {s : Subscriber S}

/-! ## Two branches -/

/-- The folds of two chains that have the same blocks up to one of them. -/
structure SharesUpTo (f g : ChainFold S) (n : Nat) : Prop where
  venue : g.venue = f.venue
  origin : g.origin = f.origin
  first : g.first = f.first
  logs : ∀ m ≤ n, g.chain.logs m = f.chain.logs m
  header : ∀ m ≤ n, g.chain.header m = f.chain.header m

namespace SharesUpTo

theorem outcome (h : f.SharesUpTo g n) {m : Nat} (hm : m ≤ n) (base : S) :
    g.outcome base m = f.outcome base m := by
  rw [ChainFold.outcome, ChainFold.outcome, h.venue, h.logs m hm, h.header m hm]

theorem state (h : f.SharesUpTo g n) : ∀ {m : Nat}, m ≤ n → g.state m = f.state m
  | 0, _ => h.first
  | m + 1, hm => by
      rw [ChainFold.state, ChainFold.state, h.origin, h.first, h.state (Nat.le_of_succ_le hm),
        h.outcome hm]

theorem changes (h : f.SharesUpTo g n) {m : Nat} (hm : m ≤ n) : g.Changes m ↔ f.Changes m := by
  rw [Changes, Changes, h.origin, h.state (Nat.le_trans (Nat.sub_le m 1) hm)]
  simp only [h.outcome hm]

theorem marked (h : f.SharesUpTo g n) {m : Nat} (hm : m ≤ n) : g.Marked m ↔ f.Marked m := by
  rw [Marked, Marked, h.origin, h.changes hm]

theorem newestChange (h : f.SharesUpTo g n) (hc : f.NewestChange n c) : g.NewestChange n c :=
  ⟨⟨hc.1.1, (h.marked hc.1.1).mpr hc.1.2⟩,
    fun m hm hmn hchanges => hc.2 m hm hmn ((h.changes hmn).mp hchanges)⟩

/-- A mirror of one branch up to a block they share is one of the other. -/
theorem mirrors (h : f.SharesUpTo g n) (hr : f.Mirrors n r) : g.Mirrors n r where
  awake := hr.awake
  current := by rw [h.state (Nat.le_refl n), hr.current]
  pointer := h.newestChange hr.pointer
  checkpoints := by
    obtain ⟨floor, hfloor, hentries⟩ := hr.checkpoints
    refine ⟨floor, hfloor, fun e => (hentries e).trans (and_congr_right fun hrange => ?_)⟩
    rw [h.marked hrange.2, h.state hrange.2]

end SharesUpTo

/-! ## Going back -/

/-- Going back to a block leads to the mirror of the chain up to that block, if the
checkpoint of the newest change up to there is still held. -/
theorem Mirrors.rewind (h : f.Mirrors newest r) (hfork : fork ≤ newest)
    (hc : f.NewestChange fork c) (hheld : (c, f.state c) ∈ r.entries) :
    r.history.latestUpTo fork = some (c, f.state c)
      ∧ f.Mirrors fork ((r.cut fork).apply (some (f.state c)) c) := by
  obtain ⟨⟨hle, hmarked⟩, hno⟩ := hc
  obtain ⟨floor, -, hentries⟩ := h.checkpoints
  have hfloor : floor ≤ c := ((hentries _).mp hheld).1.1
  have hnewest : ∀ m, f.Marked m → m ≤ fork → m ≤ c := by
    rintro m (horigin | hchanges) hm
    · exact horigin ▸ hmarked.origin_le
    · exact Nat.le_of_not_lt fun hlt => hno m hlt hm hchanges
  have hstate : f.state fork = f.state c := state_eq_of_unchanged hmarked.origin_le hle hno
  refine ⟨?_, h.awake, congrArg some hstate.symm, ⟨⟨hle, hmarked⟩, hno⟩, ?_⟩
  · exact History.latestUpTo_eq_some_iff.mpr
      ⟨⟨hheld, hle⟩, fun e he hefork => hnewest _ ((hentries e).mp he).2.1 hefork⟩
  · -- Writing the checkpoint again prunes once more, and that only raises the floor.
    refine ⟨max floor (c - r.history.retention),
      Nat.max_le.mpr ⟨hfloor, Nat.sub_le ..⟩, fun e => ?_⟩
    rw [Replica.mem_apply, Replica.mem_cut, hentries, Nat.max_le]
    constructor
    · rintro ⟨rfl | ⟨⟨⟨⟨hge, -⟩, hm, hx⟩, hefork⟩, -⟩, hkept⟩
      · exact ⟨⟨⟨hfloor, hkept⟩, hle⟩, hmarked, rfl⟩
      · exact ⟨⟨⟨hge, hkept⟩, hefork⟩, hm, hx⟩
    · rintro ⟨⟨⟨hge, hkept⟩, hefork⟩, hm, hx⟩
      refine ⟨?_, hkept⟩
      by_cases hblock : e.1 = c
      · exact Or.inl (Prod.ext hblock (hx.trans (congrArg f.state hblock)))
      · exact Or.inr ⟨⟨⟨⟨hge, Nat.le_trans hefork hfork⟩, hm, hx⟩, hefork⟩, hblock⟩

/-! ## What the window keeps -/

/-- The checkpoints of the last blocks are held, and the window has room for them. -/
structure Reaches (f : ChainFold S) (window newest : Nat) (r : Replica S) : Prop where
  retention : window ≤ r.history.retention
  held : ∀ m, f.Marked m → m ≤ newest → newest ≤ m + window → (m, f.state m) ∈ r.entries

theorem reaches_supplied (f : ChainFold S) {retention : Nat} (h : window ≤ retention) :
    f.Reaches window f.origin ((Replica.new retention).apply (some f.first) f.origin) where
  retention := h
  held m hm hle _ := by
    obtain rfl : m = f.origin := Nat.le_antisymm hle hm.origin_le
    rw [state_origin]
    exact Replica.mem_apply_self

/-- The next block leaves the replica alone, or writes one snapshot. -/
theorem Mirrors.receive_next (h : f.Mirrors newest s.replica) (hvenue : s.venue = f.venue)
    (hsound : f.Sound) (source : Source S) :
    ∃ r, (s.receive f.chain ⟨newest + 1, newest + 1, source⟩).subscriber.replica = r.validate
      ∧ (r = s.replica ∨ ∃ x, r = s.replica.apply (some x) (newest + 1)) := by
  have hcount : (⟨newest + 1, newest + 1, source⟩ : Delivery S).count = 1 :=
    Nat.add_sub_cancel_left ..
  have haccepted : ¬s.Rejects (f.chain.logsFrom (newest + 1) 1)
      (f.chain.headersFrom (newest + 1) 1) :=
    fun hrejects => hrejects.2 (Chain.violations_range _ _)
  have hruns : runs (f.chain.logsFrom (newest + 1) 1) =
      if f.chain.logs (newest + 1) = [] then [] else [⟨newest + 1, f.chain.logs (newest + 1)⟩] :=
    (Chain.runs_logsFrom_succ _ 0).trans (List.append_nil _)
  have hheader : (f.chain.headersFrom (newest + 1) 1).get? (newest + 1) =
      some (f.chain.header (newest + 1)) :=
    Chain.get?_headersFrom (Nat.le_refl _) (Nat.lt_succ_self _)
  rw [Subscriber.receive, hcount, Subscriber.update_held h.holds, if_neg haccepted,
    Subscriber.replayed, hvenue, hruns]
  by_cases hnil : f.chain.logs (newest + 1) = []
  · rw [if_pos hnil]
    exact ⟨s.replica, rfl, Or.inl rfl⟩
  · obtain ⟨r, htake, -⟩ := h.take_next hsound hheader
    rw [if_neg hnil, Replica.replay, htake]
    refine ⟨r, rfl, ?_⟩
    rcases Replica.take_cases htake with hsame | ⟨next, hnext⟩
    · exact Or.inl hsame
    · rw [Replica.keep, if_pos (Nat.lt_succ_of_le h.pointer.1.1)] at hnext
      exact Or.inr ⟨next, hnext⟩

theorem Mirrors.receive_succ (h : f.Mirrors newest s.replica) (hvenue : s.venue = f.venue)
    (hidle : f.venue.Idle) (hsound : f.Sound) (source : Source S) :
    let o := s.receive f.chain ⟨newest + 1, newest + 1, source⟩
    o.result = .ok () ∧ o.subscriber.venue = f.venue
      ∧ f.Mirrors (newest + 1) o.subscriber.replica := by
  have hreceived := h.receive (d := ⟨newest + 1, newest + 1, source⟩) hvenue hidle hsound
    (Nat.le_refl _)
  rwa [Nat.max_eq_right (Nat.le_succ newest)] at hreceived

theorem Reaches.receive (hreaches : f.Reaches window newest s.replica)
    (h : f.Mirrors newest s.replica) (hvenue : s.venue = f.venue) (hidle : f.venue.Idle)
    (hsound : f.Sound) (source : Source S) :
    f.Reaches window (newest + 1)
      (s.receive f.chain ⟨newest + 1, newest + 1, source⟩).subscriber.replica := by
  obtain ⟨r, hreplica, hr⟩ := h.receive_next hvenue hsound source
  obtain ⟨-, -, hnext⟩ := h.receive_succ hvenue hidle hsound source
  rw [hreplica] at hnext ⊢
  have holder : ∀ m, m ≤ newest → newest + 1 ≤ m + window → f.Marked m →
      (m, f.state m) ∈ s.replica.entries :=
    fun m hm hnear hmarked => hreaches.held m hmarked hm (Nat.le_of_succ_le hnear)
  rcases hr with rfl | ⟨x, rfl⟩
  · refine ⟨hreaches.retention, fun m hmarked hm hnear => ?_⟩
    rcases Nat.lt_or_eq_of_le hm with hlt | rfl
    · exact holder m (Nat.le_of_lt_succ hlt) hnear hmarked
    · -- The pointer did not move, so the block changed nothing.
      have hpointer : s.replica.pointer ≤ newest := h.pointer.1.1
      have horigin := h.pointer.1.2.origin_le
      rcases hmarked with horigin' | hchanges
      · omega
      · exact absurd hchanges (hnext.pointer.2 _ (Nat.lt_succ_of_le hpointer) (Nat.le_refl _))
  · have hx : f.state (newest + 1) = x := Option.some.inj hnext.current.symm
    refine ⟨hreaches.retention, fun m hmarked hm hnear => ?_⟩
    rcases Nat.lt_or_eq_of_le hm with hlt | rfl
    · have hwindow := hreaches.retention
      refine Replica.mem_apply.mpr ⟨Or.inr ⟨holder m (Nat.le_of_lt_succ hlt) hnear hmarked, ?_⟩, ?_⟩
      · exact Nat.ne_of_lt hlt
      · show newest + 1 - s.replica.history.retention ≤ m
        omega
    · rw [hx]
      exact Replica.mem_apply_self

end ChainFold

end ChainReplica
