import ChainReplica.Proofs.Beginning
import ChainReplica.Proofs.MadeUpChain
import ChainReplica.Proofs.SharedRecord
import ChainReplica.Proofs.TrackedChain

/-!
# The simulation converges

With a retention window of at least three blocks the simulation succeeds, all
subscribers end with the same count, and it is the count of the canonical chain
(`Simulation.simulate_converges`): of the old branch before the fork, and of the
new one from there on if the chain did branch.

The invariant of the run is `Stage.Follows`: every subscriber mirrors the made-up
chain up to the newest block, and the tracker has its header on top. Before the
chain has branched, the last three blocks are within reach of everyone
(`Stage.Ready`), and this is what the rollback needs. It goes back two blocks,
and the newest change before that may be one block older.
-/

namespace ChainReplica

namespace Simulation

variable {start n slaveCount : Nat} {fork reorgAt : Option Nat} {settings : Settings}
  {s : Subscriber Counter} {t : Stage}

/-! ## The tracker -/

/-- The tracker has the newest block of the chain on top. -/
structure Tracks (fork : Option Nat) (n : Nat) (t : Tracker) : Prop where
  linked : t.Linked
  tip : t.tip? = some ((chain fork).header n)

/-- The tracker knows the blocks that a reorganization is about. -/
structure Remembers (start n : Nat) (t : Tracker) : Prop where
  depth : 3 ≤ t.depth
  recent : ∀ m, start ≤ m → m ≤ n → n ≤ m + 2 → t.header? m = some ((chain none).header m)

variable {u : Tracker}

/-- The next block extends the chain. -/
theorem Tracks.observe_next (h : Tracks fork n u) :
    u.observe ((chain fork).header (n + 1)) =
      (.extended, u.record ((chain fork).header (n + 1))) := by
  obtain ⟨hself, hmax⟩ := h.linked.tip_greatest h.tip
  have hnew : u.knows ((chain fork).header (n + 1)) = false := by
    refine Bool.eq_false_iff.mpr fun hknown => ?_
    obtain ⟨g, hg, -⟩ := Tracker.knows_iff.mp hknown
    exact absurd (hmax _ g hg) (Nat.not_succ_le_self n)
  exact Tracker.observe_next h.tip hnew hself rfl rfl

theorem Tracks.next (h : Tracks fork n u) :
    Tracks fork (n + 1) (u.observe ((chain fork).header (n + 1))).2
      ∧ (u.observe ((chain fork).header (n + 1))).2.reorgs = u.reorgs := by
  obtain ⟨hlinked, hanswers⟩ := h.linked.observe ((chain fork).header (n + 1))
  rw [h.observe_next] at hlinked hanswers ⊢
  exact ⟨⟨hlinked, hanswers.1⟩, hanswers.2.1⟩

theorem Remembers.next (h : Remembers start n u) (htracks : Tracks none n u) :
    Remembers start (n + 1) (u.observe ((chain none).header (n + 1))).2 := by
  have hdepth := h.depth
  rw [htracks.observe_next]
  refine ⟨hdepth, fun m hm hmn hnear => ?_⟩
  rw [Tracker.header?_record]
  change (if n + 1 < m + u.depth then _ else _) = _
  rw [if_pos (by omega)]
  by_cases hself : m = n + 1
  · rw [hself]
    exact if_pos rfl
  · exact (if_neg hself).trans (h.recent m hm (by omega) (by omega))

/-- The sibling of the block before the newest one replaces both. -/
theorem Tracks.observe_sibling (h : Tracks none (n + 2) u) (hrecent : Remembers start (n + 2) u)
    (hn : start ≤ n) :
    ∃ u', u.observe ((chain (some (n + 1))).header (n + 1)) = (.reorg n 2, u')
      ∧ Tracks (some (n + 1)) (n + 1) u' ∧ u'.reorgs = u.reorgs + 1 := by
  have hold : u.header? (n + 1) = some ((chain none).header (n + 1)) :=
    hrecent.recent _ (by omega) (by omega) (by omega)
  have hparent : u.parent? ((chain (some (n + 1))).header (n + 1)) = some ((chain none).header n) :=
    hrecent.recent n hn (by omega) (by omega)
  have hhash : ((chain none).header n).hash = ((chain (some (n + 1))).header (n + 1)).parent :=
    congrArg (hashOf n) (branchAt_of_lt (Nat.lt_succ_self n)).symm
  have hnew : u.knows ((chain (some (n + 1))).header (n + 1)) = false := by
    refine Bool.eq_false_iff.mpr fun hknown => ?_
    obtain ⟨g, hg, hsame⟩ := Tracker.knows_iff.mp hknown
    obtain rfl := Option.some.inj (hold.symm.trans hg)
    refine hashOf_ne (n + 1) (hsame.trans ?_)
    exact congrArg (hashOf (n + 1)) (branchAt_of_le (Nat.le_refl (n + 1)))
  have hobserve := Tracker.observe_sibling h.tip hnew hparent hhash
    (show n + 1 ≠ n + 2 + 1 by omega)
  obtain ⟨hlinked, hanswers⟩ := h.linked.observe ((chain (some (n + 1))).header (n + 1))
  have hdropped : n + 2 - n = 2 := Nat.add_sub_cancel_left n 2
  rw [hobserve] at hlinked hanswers
  refine ⟨_, hobserve.trans ?_, ⟨hlinked, hanswers.2.1⟩, hanswers.2.2.1⟩
  exact congrArg (fun d => (Linkage.reorg n d, _)) hdropped

/-! ## The subscribers -/

/-- The subscriber counts the chain up to a block. -/
structure Serves (start : Nat) (fork : Option Nat) (n : Nat) (s : Subscriber Counter) : Prop where
  venue : s.venue = Counter.venue pool
  mirrors : (counted start fork).Mirrors n s.replica

/-- The subscriber after a block. -/
def given (fork : Option Nat) (n : Nat) (s : Subscriber Counter) : Subscriber Counter :=
  (s.receive (chain fork) ⟨n, n, source⟩).subscriber

theorem Serves.next (h : Serves start fork n s) :
    (s.receive (chain fork) ⟨n + 1, n + 1, source⟩).result = .ok ()
      ∧ Serves start fork (n + 1) (given fork (n + 1) s) := by
  obtain ⟨hresult, hvenue, hmirrors⟩ :=
    h.mirrors.receive_succ h.venue counted_idle counted_sound source
  exact ⟨hresult, hvenue, hmirrors⟩

theorem Serves.reaches_next (h : Serves start fork n s)
    (hreaches : (counted start fork).Reaches 3 n s.replica) :
    (counted start fork).Reaches 3 (n + 1) (given fork (n + 1) s).replica :=
  hreaches.receive h.mirrors h.venue counted_idle counted_sound source

/-- Going back two blocks of the old branch leads onto the new one. -/
theorem Serves.rewind (h : Serves start none (n + 2) s) (hn : start ≤ n)
    (hreaches : (counted start none).Reaches 3 (n + 2) s.replica) :
    Serves start (some (n + 1)) n (s.invalidate.rollback n).1 := by
  -- At worst the checkpoint is three blocks behind the newest one.
  obtain ⟨c, hnear, hc⟩ := newestChange_old hn
  have hle := hc.1.1
  have hheld := hreaches.held c hc.1.2 (by omega) (by omega)
  obtain ⟨hlatest, hmirrors⟩ := h.mirrors.rewind (by omega : n ≤ n + 2) hc hheld
  rw [Subscriber.rollback_of_some h.mirrors.awake hlatest]
  exact ⟨h.venue, (shares_fork start n).mirrors hmirrors⟩

theorem updateAll_eq {logs : List Log} {headers : Headers} :
    ∀ {subscribers : List (Subscriber Counter)},
      (∀ s ∈ subscribers, (s.update source logs headers).result = .ok ()) →
      updateAll logs headers subscribers =
        .ok (subscribers.map fun s => (s.update source logs headers).subscriber)
  | [], _ => rfl
  | s :: rest, h => by
      obtain ⟨hs, hrest⟩ := List.forall_mem_cons.mp h
      simp only [updateAll, hs, updateAll_eq hrest]
      rfl

/-! ## The stage -/

theorem update_eq_receive (s : Subscriber Counter) (fork : Option Nat) (n : Nat) :
    s.update source (logsOf n (branchAt fork n)) (.ofList [(chain fork).header n]) =
      s.receive (chain fork) ⟨n, n, source⟩ := by
  have hcount : (⟨n, n, source⟩ : Delivery Counter).count = 1 := Nat.add_sub_cancel_left ..
  have hlogs : (chain fork).logsFrom n 1 = logsOf n (branchAt fork n) :=
    (Chain.logsFrom_succ n 0).trans (List.append_nil _)
  rw [Subscriber.receive, hcount, hlogs]
  rfl

/-- The next block of the chain is taken by all. -/
theorem Stage.deliver_eq (h : ∀ s ∈ t.subscribers, Serves start fork n s) :
    t.deliver ((chain fork).header (n + 1)) (branchAt fork (n + 1)) =
      .ok { t with
        subscribers := t.subscribers.map (given fork (n + 1))
        tracker := (t.tracker.observe ((chain fork).header (n + 1))).2 } := by
  have hall : updateAll (logsOf (n + 1) (branchAt fork (n + 1)))
      (.ofList [(chain fork).header (n + 1)]) t.subscribers =
        .ok (t.subscribers.map (given fork (n + 1))) := by
    rw [updateAll_eq fun s hs => by rw [update_eq_receive]; exact (h s hs).next.1]
    simp only [update_eq_receive]
    rfl
  rw [Stage.deliver]
  change (updateAll (logsOf (n + 1) (branchAt fork (n + 1)))
    (.ofList [(chain fork).header (n + 1)]) t.subscribers >>= _) = _
  rw [hall]
  rfl

/-- Before the chain has branched everyone can go back two blocks. -/
structure Stage.Ready (start n : Nat) (t : Stage) : Prop where
  reaches : ∀ s ∈ t.subscribers, (counted start none).Reaches 3 n s.replica
  remembers : Remembers start n t.tracker

/-- Everyone counts the chain up to a block, which the tracker has on top. -/
structure Stage.Follows (start slaveCount : Nat) (fork : Option Nat) (n : Nat) (t : Stage) :
    Prop where
  size : t.subscribers.length = slaveCount + 1
  serves : ∀ s ∈ t.subscribers, Serves start fork n s
  tracks : Tracks fork n t.tracker
  passed : ∀ k, fork = some k → k ≤ n
  branch : t.branch = if fork.isSome then 1 else 0
  reorgs : t.tracker.reorgs = if fork.isSome then 1 else 0
  ready : fork = none → t.Ready start n

namespace Stage.Follows

theorem branch_eq (h : t.Follows start slaveCount fork n) {m : Nat} (hm : n ≤ m) :
    t.branch = branchAt fork m := by
  rw [h.branch]
  cases fork with
  | none => rfl
  | some k => exact (branchAt_of_le (Nat.le_trans (h.passed k rfl) hm)).symm

theorem deliver (h : t.Follows start slaveCount fork n) :
    ∃ t', t.deliver (headerOf (n + 1) t.branch t.branch) t.branch = .ok t'
      ∧ t'.Follows start slaveCount fork (n + 1) := by
  have hheader : headerOf (n + 1) t.branch t.branch = (chain fork).header (n + 1) :=
    congrArg₂ (headerOf (n + 1)) (h.branch_eq (Nat.le_succ n)) (h.branch_eq (Nat.le_refl n))
  rw [hheader, h.branch_eq (Nat.le_succ n), Stage.deliver_eq h.serves]
  obtain ⟨htracks, hreorgs⟩ := h.tracks.next
  refine ⟨_, rfl, ?_⟩
  constructor
  · exact (List.length_map _).trans h.size
  · exact List.forall_mem_map.mpr fun s hs => (h.serves s hs).next.2
  · exact htracks
  · exact fun k hk => Nat.le_succ_of_le (h.passed k hk)
  · exact h.branch
  · exact hreorgs.trans h.reorgs
  · rintro rfl
    obtain ⟨hreaches, hremembers⟩ := h.ready rfl
    exact ⟨List.forall_mem_map.mpr fun s hs => (h.serves s hs).reaches_next (hreaches s hs),
      hremembers.next h.tracks⟩

end Stage.Follows

/-! ## The reorganization -/

/-- Everyone back at the fork point, and the first block of the new branch on the
tracker. -/
def Stage.rewound (t : Stage) (forkPoint : Nat) (tracker : Tracker) : Stage where
  subscribers := t.subscribers.map fun s => (s.invalidate.rollback forkPoint).1
  tracker := tracker
  branch := 1
  events := t.events ++ [.reorg (forkPoint + 1) 2 forkPoint]

theorem Stage.replace_eq (hbranch : t.branch = 0) {tracker : Tracker}
    (hobserve : t.tracker.observe ((chain (some (n + 1))).header (n + 1)) =
      (.reorg n 2, tracker)) :
    t.replace (n + 2) = (t.rewound n tracker).deliver ((chain (some (n + 1))).header (n + 1))
      (branchAt (some (n + 1)) (n + 1)) >>= fun t => t.deliver (headerOf (n + 2) 1 1) 1 := by
  have hnew : branchAt (some (n + 1)) (n + 1) = 1 := branchAt_of_le (Nat.le_refl _)
  have hsibling : (chain (some (n + 1))).header (n + 1) = headerOf (n + 1) 1 0 :=
    congrArg₂ (headerOf (n + 1)) hnew (branchAt_of_lt (Nat.lt_succ_self n))
  have hmade : t.tracker.observe (headerOf (n + 2 - 1) ((t.branch + 1) % 256) t.branch) =
      (.reorg n 2, tracker) := by
    rw [hbranch]
    exact hsibling ▸ hobserve
  simp only [Stage.replace, hmade]
  rw [hsibling, hnew, hbranch]
  rfl

namespace Stage.Follows

/-- Replacing the block before the newest one, everyone counts the new branch. -/
theorem replace (h : t.Follows start slaveCount none (n + 2)) (hn : start ≤ n) :
    ∃ t', t.replace (n + 2) = .ok t' ∧ t'.Follows start slaveCount (some (n + 1)) (n + 2) := by
  obtain ⟨hreaches, hremembers⟩ := h.ready rfl
  obtain ⟨u, hobserve, htracks, hreorgs⟩ := h.tracks.observe_sibling hremembers hn
  have hserves : ∀ s ∈ (t.rewound n u).subscribers, Serves start (some (n + 1)) n s :=
    List.forall_mem_map.mpr fun s hs => (h.serves s hs).rewind hn (hreaches s hs)
  -- The new block is on the tracker already, so its delivery leaves the tracker alone.
  have hknown : u.observe ((chain (some (n + 1))).header (n + 1)) = (.known, u) := by
    obtain ⟨hself, -⟩ := htracks.linked.tip_greatest htracks.tip
    exact Tracker.observe_known htracks.tip (Tracker.knows_iff.mpr ⟨_, hself, rfl⟩)
  have hfollows : Stage.Follows start slaveCount (some (n + 1)) (n + 1)
      { t.rewound n u with
        subscribers := (t.rewound n u).subscribers.map (given (some (n + 1)) (n + 1))
        tracker := u } := by
    constructor
    · simpa [Stage.rewound] using h.size
    · exact List.forall_mem_map.mpr fun s hs => (hserves s hs).next.2
    · exact htracks
    · exact fun k hk => Nat.le_of_eq (Option.some.inj hk).symm
    · rfl
    · rw [hreorgs, h.reorgs]
      rfl
    · nofun
  obtain ⟨t', hdeliver, ht'⟩ := hfollows.deliver
  refine ⟨t', ?_, ht'⟩
  rw [Stage.replace_eq h.branch hobserve, Stage.deliver_eq hserves]
  change (Stage.deliver { t.rewound n u with
      subscribers := (t.rewound n u).subscribers.map (given (some (n + 1)) (n + 1))
      tracker := (u.observe ((chain (some (n + 1))).header (n + 1))).2 }
    (headerOf (n + 2) 1 1) 1) = _
  rw [hknown]
  exact hdeliver

end Stage.Follows

/-! ## The run -/

/-- The first block of the new branch, if the chain has branched by the newest
block. -/
def forkOf (start : Nat) (reorgAt : Option Nat) (newest : Nat) : Option Nat :=
  (reorgAt.filter fun r => start + 2 ≤ r ∧ r ≤ newest).map (· - 1)

theorem forkOf_start (start : Nat) (reorgAt : Option Nat) : forkOf start reorgAt start = none := by
  cases reorgAt with
  | none => rfl
  | some r =>
      have hlate : ¬(start + 2 ≤ r ∧ r ≤ start) := by omega
      simp [forkOf, Option.filter_some, hlate]

/-- The chain branches at a block, or was as it is before. -/
theorem forkOf_succ (start : Nat) (reorgAt : Option Nat) (n : Nat) :
    (reorgAt = some (n + 1) ∧ start + 2 ≤ n + 1 ∧ forkOf start reorgAt n = none
        ∧ forkOf start reorgAt (n + 1) = some n)
      ∨ (¬(reorgAt = some (n + 1) ∧ start + 2 ≤ n + 1)
        ∧ forkOf start reorgAt (n + 1) = forkOf start reorgAt n) := by
  cases reorgAt with
  | none => exact Or.inr ⟨by simp, rfl⟩
  | some r =>
      by_cases hnow : r = n + 1 ∧ start + 2 ≤ n + 1
      · obtain ⟨rfl, hstart⟩ := hnow
        exact Or.inl ⟨rfl, hstart, by simp [forkOf, Option.filter_some],
          by simp [forkOf, Option.filter_some, hstart]⟩
      · have hsame : (start + 2 ≤ r ∧ r ≤ n + 1) ↔ (start + 2 ≤ r ∧ r ≤ n) := by omega
        exact Or.inr ⟨by simpa using hnow, by simp only [forkOf, Option.filter_some, hsame]⟩

/-- The counts after a block, for those who watch. -/
def Stage.noted (t : Stage) (number : Nat) : Stage :=
  { t with events := t.events ++ [.block number t.counts] }

theorem Stage.advance_eq {t₁ : Stage} {number : Nat}
    (hdeliver : t.deliver (headerOf number t.branch t.branch) t.branch = .ok t₁) :
    t.advance start reorgAt number =
      (if reorgAt = some number ∧ start + 2 ≤ number then t₁.replace number else .ok t₁).map
        (Stage.noted · number) := by
  rw [Stage.advance, hdeliver]
  change (if reorgAt = some number ∧ start + 2 ≤ number then
      t₁.replace number >>= fun t => .ok (t.noted number) else .ok (t₁.noted number)) = _
  split
  · cases t₁.replace number <;> rfl
  · rfl

namespace Stage.Follows

theorem noted (h : t.Follows start slaveCount fork n) (number : Nat) :
    (t.noted number).Follows start slaveCount fork n :=
  ⟨h.size, h.serves, h.tracks, h.passed, h.branch, h.reorgs,
    fun hnone => ⟨(h.ready hnone).reaches, (h.ready hnone).remembers⟩⟩

theorem advance (h : t.Follows start slaveCount (forkOf start reorgAt n) n) :
    ∃ t', t.advance start reorgAt (n + 1) = .ok t'
      ∧ t'.Follows start slaveCount (forkOf start reorgAt (n + 1)) (n + 1) := by
  obtain ⟨t₁, hdeliver, h₁⟩ := h.deliver
  rcases forkOf_succ start reorgAt n with ⟨hnow, hstart, hold, hnew⟩ | ⟨hnow, hsame⟩
  · obtain ⟨m, rfl⟩ : ∃ m, n = m + 1 := ⟨n - 1, by omega⟩
    rw [hold] at h₁
    obtain ⟨t₂, hreplace, h₂⟩ := h₁.replace (by omega)
    refine ⟨t₂.noted (m + 2), ?_, ?_⟩
    · rw [Stage.advance_eq hdeliver, if_pos ⟨hnow, hstart⟩, hreplace]
      rfl
    · rw [hnew]
      exact h₂.noted (m + 2)
  · refine ⟨t₁.noted (n + 1), ?_, ?_⟩
    · rw [Stage.advance_eq hdeliver, if_neg hnow]
      rfl
    · rw [hsame]
      exact h₁.noted (n + 1)

theorem run : ∀ {count n : Nat} {t : Stage},
    t.Follows start slaveCount (forkOf start reorgAt n) n →
      ∃ t', Stage.run start reorgAt t (n + 1) count = .ok t'
        ∧ t'.Follows start slaveCount (forkOf start reorgAt (n + count)) (n + count)
  | 0, _, t, h => ⟨t, rfl, h⟩
  | count + 1, n, t, h => by
      obtain ⟨t₁, hadvance, h₁⟩ := h.advance
      obtain ⟨t₂, hrun, h₂⟩ := h₁.run
      refine ⟨t₂, ?_, ?_⟩
      · rw [Stage.run, hadvance]
        exact hrun
      · rwa [Nat.add_right_comm] at h₂

theorem counts_eq (h : t.Follows start slaveCount fork n) (hn : start ≤ n) :
    t.counts = List.replicate (slaveCount + 1)
      (some (∑ m ∈ Finset.Ioc start n, (logsOf m (branchAt fork m)).length)) := by
  rw [Stage.counts, ← h.size, ← List.map_const']
  refine List.map_congr_left fun s hs => ?_
  rw [(h.serves s hs).mirrors.current, state_counted hn]
  rfl

end Stage.Follows

/-! ## Setting up -/

/-- What the cache holds is the record of a snapshot that was stored. -/
theorem value?_cacheAfter {effects : List (Effect Counter)} {text : String}
    (h : (cacheAfter settings effects).value? 0 subscription = some text) :
    ∃ block x, Effect.store block x ∈ effects ∧ text = Record.encode Counter.codec ⟨block, x⟩ := by
  induction effects using List.reverseRecOn with
  | nil => cases h
  | append_singleton effects e ih =>
      rw [cacheAfter, List.foldl_append, List.foldl_cons, List.foldl_nil] at h
      cases e with
      | store block x =>
          change ((cacheAfter settings effects).set _ _ _ _).value? _ _ = _ at h
          rw [Store.value?_set_self] at h
          split at h
          · obtain ⟨entry, hentry, rfl⟩ := Option.map_eq_some_iff.mp h
            obtain ⟨hentry, -⟩ := Option.filter_eq_some_iff.mp hentry
            obtain rfl := Option.some.inj hentry
            exact ⟨block, x, List.mem_append_right _ List.mem_cons_self, rfl⟩
          · obtain ⟨block, x, hmem, htext⟩ := ih h
            exact ⟨block, x, List.mem_append_left _ hmem, htext⟩
      | _ =>
          obtain ⟨block, x, hmem, htext⟩ := ih h
          exact ⟨block, x, List.mem_append_left _ hmem, htext⟩

/-- The record of a zero is read as it was written, if at all. -/
theorem eq_of_published {effects : List (Effect Counter)} {processed : Option Nat}
    (hstored : ∀ block x, Effect.store block x ∈ effects → block = start ∧ x = ⟨0⟩)
    {record : Record Counter}
    (h : (world (cacheAfter settings effects) processed).published = some record) :
    record = ⟨start, ⟨0⟩⟩ := by
  obtain ⟨text, hvalue, hread⟩ := Option.bind_eq_some_iff.mp h
  obtain ⟨block, x, hmem, rfl⟩ := value?_cacheAfter hvalue
  obtain ⟨rfl, rfl⟩ := hstored block x hmem
  rw [Record.decode_toOption, Record.decode?_encode Counter.codec (Counter.exact_write _)] at hread
  split at hread
  · have hzero : (⟨0⟩ : Counter).count < Numeral.countLimit := by decide
    rw [Counter.read?_write, if_pos hzero] at hread
    exact (Option.some.inj hread).symm
  · -- The block does not fit a count, and the record is not read at all.
    cases hread

/-- Everyone starts from zero, a slave from the cache or from scratch. -/
def beginner (settings : Settings) (role : Role) (start : Nat) : Subscriber Counter :=
  .begun subscription (Counter.venue pool) { settings with role := role } ⟨0⟩ start

theorem setUp_eq {role : Role} {w : Surroundings Counter} (hsource : w.source start = .ok ⟨0⟩)
    (hregistration : w.registration = .ok ())
    (hpublished : ∀ record, w.published = some record → record = ⟨start, ⟨0⟩⟩) :
    ∃ o, setUp (subscriber settings role) w start = .ok o
      ∧ o = (subscriber settings role).establish w start .usual
      ∧ o.subscriber = beginner settings role start := by
  obtain ⟨hresult, hbegun⟩ : (((subscriber settings role).establish w start .usual).result = _)
      ∧ (((subscriber settings role).establish w start .usual).subscriber = _) :=
    Subscriber.establish_usual hsource hpublished
  refine ⟨_, ?_, rfl, hbegun⟩
  rw [setUp, hresult, hregistration]
  rfl

/-- The master stores nothing but its first snapshot. -/
theorem stored_master {block : Nat} {x : Counter}
    (h : Effect.store block x ∈
      ((subscriber settings .master).establish (world .empty none) start .usual).effects) :
    block = start ∧ x = ⟨0⟩ := by
  have hslave : { settings with role := Role.master }.sharesAs .slave = false := by
    simp [Settings.sharesAs]
  have hsource : (world .empty none).source start = .ok ⟨0⟩ := rfl
  have hbuild : ((subscriber settings .master).establish (world .empty none) start .usual).effects
      = _ := congrArg Outcome.effects
    ((Subscriber.establish_of_unshared hslave).trans (Subscriber.build_of_ok rfl hsource false))
  rw [hbuild] at h
  have hstored : (subscriber settings .master).settings.sharesAs .master = true
      ∧ block = start ∧ x = ⟨0⟩ := by simpa using h
  exact hstored.2

/-! ## The whole simulation -/

/-- Everyone set up at the first block. -/
def begunStage (settings : Settings) (start slaveCount : Nat) : Stage where
  subscribers := beginner settings .master start ::
    List.replicate slaveCount (beginner settings .slave start)
  tracker := ((Tracker.new Tracker.defaultDepth).observe (headerOf start 0 0)).2
  branch := 0
  events := []

theorem tracks_begun (start : Nat) :
    let u := ((Tracker.new Tracker.defaultDepth).observe (headerOf start 0 0)).2
    Tracks none start u ∧ u.reorgs = 0 ∧ Remembers start start u := by
  intro u
  have hempty : (Tracker.new Tracker.defaultDepth).tip? = none := rfl
  have hrecord : u = (Tracker.new Tracker.defaultDepth).record (headerOf start 0 0) :=
    congrArg Prod.snd (Tracker.observe_first hempty)
  obtain ⟨hlinked, hanswers⟩ :=
    (Tracker.Linked.new Tracker.defaultDepth).observe (headerOf start 0 0)
  rw [Tracker.observe_first hempty, ← hrecord] at hlinked hanswers
  obtain ⟨htip, -⟩ := hanswers
  refine ⟨⟨hlinked, htip⟩, by rw [hrecord]; rfl, ?_, fun m hm hle _ => ?_⟩
  · rw [hrecord]
    exact (by decide : 3 ≤ max Tracker.defaultDepth 1)
  · obtain rfl : m = start := Nat.le_antisymm hle hm
    exact (hlinked.tip_greatest htip).1

theorem begunStage_follows (hretention : 3 ≤ settings.retention) (start slaveCount : Nat) :
    (begunStage settings start slaveCount).Follows start slaveCount none start := by
  obtain ⟨htracks, hreorgs, hremembers⟩ := tracks_begun start
  have hall : ∀ s ∈ (begunStage settings start slaveCount).subscribers,
      Serves start none start s ∧ (counted start none).Reaches 3 start s.replica := by
    have hbeginner : ∀ role, Serves start none start (beginner settings role start)
        ∧ (counted start none).Reaches 3 start (beginner settings role start).replica :=
      fun role => ⟨⟨rfl, ChainFold.mirrors_supplied (counted start none) _⟩,
        ChainFold.reaches_supplied (counted start none) hretention⟩
    intro s hs
    rcases List.mem_cons.mp hs with rfl | hs
    · exact hbeginner .master
    · obtain rfl := List.eq_of_mem_replicate hs
      exact hbeginner .slave
  constructor
  · simp [begunStage]
  · exact fun s hs => (hall s hs).1
  · exact htracks
  · nofun
  · rfl
  · exact hreorgs
  · exact fun _ => ⟨fun s hs => (hall s hs).2, hremembers⟩

theorem mapM_replicate {α β : Type} {f : α → Except Failure β} {x : α} {y : β}
    (h : f x = .ok y) : ∀ count : Nat,
      (List.replicate count x).mapM f = .ok (List.replicate count y)
  | 0 => rfl
  | count + 1 => by
      rw [List.replicate_succ, List.mapM_cons, h, mapM_replicate h count]
      rfl

/-- The simulation is the run of the blocks after everyone was set up. -/
theorem simulate_eq (settings : Settings) (start blocks slaveCount : Nat) (reorgAt : Option Nat) :
    simulate settings start blocks slaveCount reorgAt =
      (Stage.run start reorgAt (begunStage settings start slaveCount) (start + 1) blocks).map
        fun t => ⟨start + blocks, t.counts.head?.join, t.counts.drop 1, t.tracker.reorgs,
          t.events⟩ := by
  obtain ⟨master, hmaster, hestablished, hbegun⟩ : ∃ o, setUp (subscriber settings .master)
      (world .empty none) start = .ok o ∧ o = _ ∧ o.subscriber = _ := setUp_eq rfl rfl nofun
  have hstored : ∀ block x, Effect.store block x ∈ master.effects → block = start ∧ x = ⟨0⟩ := by
    rw [hestablished]
    exact fun block x hmem => stored_master hmem
  obtain ⟨slave, hslave, -, hjoined⟩ : ∃ o, setUp (subscriber settings .slave)
      (world (cacheAfter settings master.effects) (some start)) start = .ok o ∧ o = _
        ∧ o.subscriber = _ := setUp_eq rfl rfl fun record hrecord => eq_of_published hstored hrecord
  have hslaves := mapM_replicate (f := fun s =>
    setUp s (world (cacheAfter settings master.effects) (some start)) start) hslave slaveCount
  rw [begunStage, ← hbegun, ← hjoined, ← List.map_replicate]
  simp only [simulate, hmaster, hslaves, bind, Except.bind]
  cases Stage.run start reorgAt _ (start + 1) blocks <;> rfl

/-- With a retention window of three blocks or more, the simulation converges and
counts the canonical branch. -/
theorem simulate_converges (settings : Settings) (hretention : 3 ≤ settings.retention)
    (start blocks slaveCount : Nat) (reorgAt : Option Nat) :
    let fork := forkOf start reorgAt (start + blocks)
    ∃ report, simulate settings start blocks slaveCount reorgAt = .ok report
      ∧ report.converged = true
      ∧ report.finalBlock = start + blocks
      ∧ report.reorgs = (if fork.isSome then 1 else 0)
      ∧ report.master = some
        (∑ n ∈ Finset.Ioc start (start + blocks), (logsOf n (branchAt fork n)).length)
      ∧ report.slaves.length = slaveCount := by
  intro fork
  have hbegun := begunStage_follows hretention start slaveCount
  rw [← forkOf_start start reorgAt] at hbegun
  obtain ⟨t, hrun, ht⟩ : ∃ t, Stage.run start reorgAt (begunStage settings start slaveCount)
      (start + 1) blocks = .ok t ∧ t.Follows start slaveCount fork (start + blocks) := hbegun.run
  have hcounts := ht.counts_eq (Nat.le_add_right start blocks)
  rw [List.replicate_succ] at hcounts
  rw [simulate_eq, hrun]
  refine ⟨_, rfl, ?_, rfl, ht.reorgs, ?_, ?_⟩
  · simp [Report.converged, hcounts]
  · simp [hcounts]
  · simp [hcounts]

/-- Blocks 1007 and 1008 of twelve are replaced: eleven logs on the old branch, nine
on the new one. -/
theorem simulate_converges_branched :
    ∃ report, simulate .default 1000 12 2 (some 1008) = .ok report
      ∧ report.converged = true ∧ report.reorgs = 1 ∧ report.master = some 20
      ∧ report.slaves.length = 2 := by
  have hretention : 3 ≤ Settings.default.retention := by decide
  obtain ⟨report, hreport, hconverged, -, hreorgs, hmaster, hslaves⟩ :=
    simulate_converges .default hretention 1000 12 2 (some 1008)
  exact ⟨report, hreport, hconverged, hreorgs, hmaster, hslaves⟩

end Simulation

end ChainReplica
