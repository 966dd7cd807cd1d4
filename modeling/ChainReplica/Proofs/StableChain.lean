import ChainReplica.Proofs.Beginning
import ChainReplica.Proofs.Coverage
import ChainReplica.Proofs.Delivery
import ChainReplica.Proofs.HonestNode
import ChainReplica.Proofs.Publication

/-!
# Following a chain that is not reorganized

On a chain that only grows, a follower takes every block once and in order, and
holds what the newest `Sync` log tells, however many requests fail in between
(`Watch.polls_follow`).

Failures can put the tracker ahead of the last block processed, since headers are
shown to it before the logs of their blocks are fetched. The next poll begins with
the same headers, but its batches may end elsewhere. As all tracked headers are
those of the chain, and the tracker is deeper than a batch is long, a header that
comes again is known, and a new one is the next (`Tracker.OnChain.observeAll`).
-/

namespace ChainReplica

/-! ## The logs of one pair -/

/-- A chain without the logs that are no `Sync` logs of the pair. -/
def Chain.only (c : Chain) (pair : Address) : Chain where
  logs n := (c.logs n).filter (Reserves.isSync pair)
  header := c.header
  placed n log h := c.placed n log (List.mem_filter.mp h).1
  ordered n := (c.ordered n).filter _

namespace Chain

variable {c : Chain} {pair : Address}

theorem logsFrom_only (first count : Nat) :
    (c.only pair).logsFrom first count = c.syncLogs pair first count := by
  rw [syncLogs, logsFrom, logsFrom, List.filter_flatMap]
  rfl

theorem syncLogs_only (first count : Nat) :
    (c.only pair).syncLogs pair first count = c.syncLogs pair first count := by
  rw [syncLogs, logsFrom_only, syncLogs, List.filter_filter]
  simp only [Bool.and_self]

theorem Legible.only (h : c.Legible pair) : (c.only pair).Legible pair :=
  fun n log hlog => h n log (List.mem_filter.mp hlog).1

/-- Every header has the number of its block, and names the one before as its
parent. -/
structure Linked (c : Chain) : Prop where
  numbered : ∀ n, (c.header n).number = n
  linked : ∀ n, (c.header (n + 1)).parent = (c.header n).hash

end Chain

namespace Reserves

variable {c : Chain} {pair : Address} {origin newest : Nat} {first : Reserves}
  {r : Replica Reserves}

/-- A replica with the reserves that the newest `Sync` log after a first snapshot
tells, at the block of that log. If there is none, it is the first snapshot. -/
def Newest (c : Chain) (pair : Address) (origin newest : Nat) (first : Reserves)
    (r : Replica Reserves) : Prop :=
  match (c.syncLogs pair (origin + 1) (newest - origin)).getLast? with
  | none => r.current = some first ∧ r.pointer = origin
  | some log => log.block = some r.pointer ∧ ∃ x, told log = .ok x ∧ r.current = some x

theorem newest_of_mirrors (hlegible : c.Legible pair)
    (h : (folded (c.only pair) pair origin first).Mirrors newest r) :
    Newest c pair origin newest first r := by
  have horigin : origin ≤ newest := Nat.le_trans h.pointer.1.2.origin_le h.pointer.1.1
  obtain ⟨count, rfl⟩ := Nat.exists_eq_add_of_le horigin
  have hblock := block_folded hlegible.only h.pointer
  have hcurrent := h.current
  have hlast := getLast?_tellings (hlegible.only.logsFrom (origin + 1) count)
  rw [state_folded hlegible.only] at hcurrent
  rw [← Chain.syncLogs] at hlast
  rw [Chain.syncLogs_only] at hblock hlast
  rw [Newest, Nat.add_sub_cancel_left]
  cases hlog : (c.syncLogs pair (origin + 1) count).getLast? with
  | none =>
      rw [hlog] at hblock hlast
      rw [hlast] at hcurrent
      exact ⟨hcurrent, hblock⟩
  | some log =>
      rw [hlog] at hblock hlast
      obtain ⟨x, hx, htells⟩ := hlast
      rw [htells] at hcurrent
      exact ⟨hblock, x, hx, hcurrent⟩

end Reserves

/-! ## The tracker -/

namespace Tracker

variable {t : Tracker} {c : Chain} {n : Nat}

/-- A tracker that holds headers of one chain, among them that of a block. -/
structure OnChain (t : Tracker) (c : Chain) (n : Nat) : Prop where
  linked : t.Linked
  own : ∀ {k g}, t.header? k = some g → g = c.header k
  holds : t.header? n = some (c.header n)

namespace OnChain

/-- The next header is known, or extends what is tracked. -/
theorem observe (hc : c.Linked) (h : t.OnChain c n) :
    ∃ t', (t.observe (c.header (n + 1)) = (.known, t')
        ∨ t.observe (c.header (n + 1)) = (.extended, t'))
      ∧ t'.OnChain c (n + 1) ∧ t'.depth = t.depth
      ∧ ∀ k g, t.header? k = some g → n + 1 < k + t.depth → t'.header? k = some g := by
  have hnumber := hc.numbered (n + 1)
  cases htip : t.tip? with
  | none =>
      have hholds := h.holds
      rw [header?_of_tip?_none htip] at hholds
      cases hholds
  | some tip =>
      obtain ⟨hself, hmax⟩ := h.linked.tip_greatest htip
      cases hknown : t.knows (c.header (n + 1)) with
      | true =>
          obtain ⟨g, hg, -⟩ := knows_iff.mp hknown
          rw [hnumber] at hg
          refine ⟨t, Or.inl (observe_known htip hknown), ⟨h.linked, h.own, ?_⟩, rfl,
            fun k g hk _ => hk⟩
          rw [hg, h.own hg]
      | false =>
          -- A tracked header of the block would be that of the chain, and known.
          have hnew : ∀ g, t.header? (n + 1) ≠ some g := fun g hg =>
            Bool.eq_false_iff.mp hknown
              (knows_iff.mpr ⟨g, by rw [hnumber]; exact hg, by rw [h.own hg]⟩)
          have hle : n ≤ tip.number := hmax n _ h.holds
          have htop : tip.number = n := by
            refine Nat.le_antisymm (Nat.le_of_not_lt fun hlt => ?_) hle
            obtain ⟨g, hg⟩ := h.linked.contiguous h.holds hself (n + 1) (Nat.le_succ n) hlt
            exact hnew g hg
          have hparent : t.parent? (c.header (n + 1)) = some (c.header n) := by
            rw [parent?, hnumber, if_neg (Nat.succ_ne_zero n)]
            exact h.holds
          have hhash : (c.header n).hash = (c.header (n + 1)).parent := (hc.linked n).symm
          have hobserve := observe_next htip hknown hparent hhash (by rw [hnumber, htop])
          have hlinked := (h.linked.observe (c.header (n + 1))).1
          rw [hobserve] at hlinked
          refine ⟨_, Or.inr hobserve, ⟨hlinked, fun {k g} hg => ?_, ?_⟩, rfl,
            fun k g hg hnear => ?_⟩
          · obtain ⟨-, ⟨rfl, rfl⟩ | ⟨-, hg⟩⟩ := header?_of_record hg
            · rw [hnumber]
            · exact h.own hg
          · have hrecorded := h.linked.header?_record_self (x := c.header (n + 1))
            rwa [hnumber] at hrecorded
          · have hk : k ≠ (c.header (n + 1)).number := by
              rintro rfl
              exact hnew g (hnumber ▸ hg)
            rw [header?_record, if_pos (by omega), if_neg hk]
            exact hg

/-- The headers that follow link, and what is not too old stays. -/
theorem observeAll (hc : c.Linked) (count : Nat) : ∀ {n : Nat} {t : Tracker}, t.OnChain c n →
    ∃ t', Watch.observeAll t ((List.range' (n + 1) count).map c.header) = (.extended, t')
      ∧ t'.OnChain c (n + count) ∧ t'.depth = t.depth
      ∧ ∀ k g, t.header? k = some g → n + count < k + t.depth → t'.header? k = some g := by
  induction count with
  | zero => exact fun {n t} h => ⟨t, rfl, h, rfl, fun k g hk _ => hk⟩
  | succ count ih =>
      intro n t h
      obtain ⟨t', hobserve, hon, hdepth, hkept⟩ := h.observe hc
      obtain ⟨u, hall, hon', hdepth', hkept'⟩ := ih hon
      rw [Nat.add_right_comm] at hon' hkept'
      refine ⟨u, ?_, hon', hdepth'.trans hdepth, fun k g hk hnear => ?_⟩
      · rw [List.range'_succ, List.map_cons, Watch.observeAll]
        rcases hobserve with hknown | hextended
        · rw [hknown]
          exact hall
        · rw [hextended]
          exact hall
      · exact hkept' k g (hkept k g hk (by omega)) (by omega)

end OnChain

end Tracker

/-! ## The follower -/

/-- Deliveries in a row are deliveries up to the end of the last. -/
theorem Delivers.append {start middle final : Nat} {notices more : List Notice}
    (h : Delivers start middle notices) (hmore : Delivers middle final more) :
    Delivers start final (notices ++ more) := by
  induction h with
  | done last => exact hmore
  | next hlt _ ih => exact .next hlt (ih hmore)

namespace Watch

variable {σ : Type} {node : Node σ} {plan : Plan} {c : Chain} {m : Gauge σ}
  {origin latest last : Nat} {first : Reserves} {w : Watch σ}

/-- A delivery of blocks that fit in one batch. -/
def Short : Notice → Prop
  | .delivered first last _ _ _ => last < first + batchSize
  | _ => False

/-- Between two polls: the subscriber mirrors the chain up to the last block
processed, and the tracker holds that block, and maybe some that are newer. -/
structure Steady (plan : Plan) (c : Chain) (m : Gauge σ) (origin : Nat) (first : Reserves)
    (w : Watch σ) : Prop where
  venue : w.subscriber.venue = Reserves.venue plan.pair
  mirrors : (Reserves.folded (c.only plan.pair) plan.pair origin first).Mirrors w.last
    w.subscriber.replica
  tracker : w.tracker.OnChain c w.last
  deep : batchSize < w.tracker.depth
  shown : w.last ≤ m.head w.node

/-- Requests to the node change nothing but the node. -/
theorem Steady.requested (h : Steady plan c m origin first w) {s : σ} (hkeeps : m.Keeps w.node s) :
    Steady plan c m origin first { w with node := s } :=
  ⟨h.venue, h.mirrors, h.tracker, h.deep, Nat.le_trans h.shown hkeeps.1⟩

/-- A part of a poll: it delivers short ranges in a row, and without a failing
request it gets to its goal. -/
structure Proceeds (plan : Plan) (c : Chain) (m : Gauge σ) (origin : Nat) (first : Reserves)
    (w : Watch σ) (goal : Option Nat) (p : Poll σ) : Prop where
  steady : Steady plan c m origin first p.watch
  delivers : Delivers w.last p.watch.last p.notices
  short : ∀ notice ∈ p.notices, Short notice
  keeps : m.Keeps w.node p.watch.node
  ends : m.faults p.watch.node = m.faults w.node →
    p.result = .ok () ∧ goal = some p.watch.last

namespace Proceeds

variable {goal goal' : Option Nat} {p q : Poll σ}

/-- Requests are made, and nothing is done. -/
theorem asked {w' : Watch σ} (h : Steady plan c m origin first w') (hlast : w'.last = w.last)
    (hkeeps : m.Keeps w.node w'.node) :
    Proceeds plan c m origin first w (some w'.last) ⟨w', [], [], .ok ()⟩ where
  steady := h
  delivers := by
    rw [← hlast]
    exact .done _
  short := List.forall_mem_nil _
  keeps := hkeeps
  ends _ := ⟨rfl, rfl⟩

theorem idle (h : Steady plan c m origin first w) :
    Proceeds plan c m origin first w (some w.last) ⟨w, [], [], .ok ()⟩ :=
  asked h rfl (.refl _)

/-- A request fails, and nothing else happens. -/
theorem failed {w' : Watch σ} (h : Steady plan c m origin first w') (hlast : w'.last = w.last)
    (hfails : m.Fails w.node w'.node) (e : Failure) :
    Proceeds plan c m origin first w goal (Watch.failed w' e) where
  steady := h
  delivers := by
    rw [← hlast]
    exact .done _
  short := List.forall_mem_nil _
  keeps := hfails.keeps
  ends hsame := absurd hsame hfails.faults_ne

theorem following (h : Proceeds plan c m origin first w goal p)
    (h' : Proceeds plan c m origin first p.watch goal' q) :
    Proceeds plan c m origin first w goal' (Watch.following p q) where
  steady := h'.steady
  delivers := h.delivers.append h'.delivers
  short := List.forall_mem_append.mpr ⟨h.short, h'.short⟩
  keeps := h.keeps.trans h'.keeps
  ends hsame := h'.ends (Nat.le_antisymm (hsame ▸ h.keeps.2) h'.keeps.2)

end Proceeds

/-! ## One batch -/

/-- Publishing asks the node for nothing. -/
theorem charge_stores (node : Node σ) (plan : Plan) (s : σ) (t : Subscriber Reserves)
    (written : List (Nat × Reserves)) : charge node plan s (t.stores written) = s := by
  unfold Subscriber.stores
  split
  · induction written with
    | nil => rfl
    | cons e rest ih => exact ih
  · rfl

theorem charge_held {source : Source Reserves} {s : Subscriber Reserves} {logs : List Log}
    {headers : Headers} (h : s.replica.Holds) (node : Node σ) (plan : Plan) (x : σ) :
    charge node plan x (s.update source logs headers).effects = x := by
  rw [Subscriber.effects_held h]
  split
  · rfl
  · exact charge_stores node plan x s _

/-- What the subscriber is given of a range of blocks. -/
theorem receive_only (s : Subscriber Reserves) (c : Chain) (pair : Address) (first last : Nat)
    (source : Source Reserves) :
    s.receive (c.only pair) ⟨first, last, source⟩ =
      s.update source (c.syncLogs pair first (last + 1 - first))
        (c.headersFrom first (last + 1 - first)) := by
  rw [Subscriber.receive, Chain.logsFrom_only]
  rfl

/-- The logs of the next blocks are taken. -/
theorem Steady.receive (hlegible : c.Legible plan.pair) (h : Steady plan c m origin first w)
    (hlt : w.last < last) (source : Source Reserves) :
    let o := w.subscriber.update source
      (c.syncLogs plan.pair (w.last + 1) (last + 1 - (w.last + 1)))
      (c.headersFrom (w.last + 1) (last + 1 - (w.last + 1)))
    o.result = .ok () ∧ o.subscriber.venue = Reserves.venue plan.pair
      ∧ (Reserves.folded (c.only plan.pair) plan.pair origin first).Mirrors last
        o.subscriber.replica := by
  have hreceived := h.mirrors.receive (d := ⟨w.last + 1, last, source⟩) h.venue
    Reserves.folded_idle (Reserves.folded_sound hlegible.only) (Nat.le_refl _)
  rw [Nat.max_eq_right (Nat.le_of_lt hlt)] at hreceived
  exact receive_only .. ▸ hreceived

/-- The logs of blocks whose headers link are taken, or the request for them
fails. -/
theorem Steady.deliver (hnode : node.Serves c m) (hlegible : c.Legible plan.pair)
    (h : Steady plan c m origin first w) {tracker : Tracker} {s : σ} (hlt : w.last < last)
    (hle : last ≤ w.last + batchSize) (hkeeps : m.Keeps w.node s) (hshown : last ≤ m.head s)
    (hdeep : batchSize < tracker.depth) (hbefore : tracker.OnChain c w.last)
    (hafter : tracker.OnChain c last) :
    let p := ({ w with node := s, tracker := tracker } : Watch σ).deliver node plan (w.last + 1)
      last (c.headersFrom (w.last + 1) (last + 1 - (w.last + 1)))
    Proceeds plan c m origin first w (some last) p
      ∧ (p.result.isOk = true → p.watch.last = last)
      ∧ (p.result.isOk = false → m.Fails w.node p.watch.node) := by
  intro p
  have hlogs := hnode.fetchLogs plan.pair (w.last + 1) hshown
  simp only [p, Watch.deliver]
  generalize Reserves.fetchLogs node plan.pair (w.last + 1) last s = answer at hlogs
  obtain ⟨e | logs, s'⟩ := answer
  · have hfails : m.Fails w.node s' := hkeeps.then_fails hlogs
    have hsteady : Steady plan c m origin first { w with node := s', tracker := tracker } :=
      ⟨h.venue, h.mirrors, hbefore, hdeep, Nat.le_trans h.shown hfails.1⟩
    exact ⟨.failed (w := w) hsteady rfl hfails e,
      fun hok => absurd hok Bool.false_ne_true, fun _ => hfails⟩
  · obtain ⟨hkeeps', rfl⟩ := hlogs
    have hkept : m.Keeps w.node s' := hkeeps.trans hkeeps'
    obtain ⟨hresult, hvenue, hmirrors⟩ := h.receive hlegible hlt (source node plan s')
    simp only [hresult, charge_held h.mirrors.holds]
    refine ⟨?_, fun _ => trivial, fun hfailed => absurd hfailed.symm Bool.false_ne_true⟩
    exact
      { steady := ⟨hvenue, hmirrors, hafter, hdeep, Nat.le_trans hshown hkeeps'.1⟩
        delivers := .next hlt (.done last)
        short := List.forall_mem_singleton.mpr (by simp only [Short]; omega)
        keeps := hkept
        ends := fun _ => ⟨rfl, rfl⟩ }

theorem Steady.takeBatch (hnode : node.Serves c m) (hlinked : c.Linked)
    (hlegible : c.Legible plan.pair) (h : Steady plan c m origin first w) (hlt : w.last < latest)
    (hshown : latest ≤ m.head w.node) :
    let batch := w.takeBatch node plan latest
    ∃ last, w.last < last ∧ last ≤ latest
      ∧ Proceeds plan c m origin first w (some last) batch.2
      ∧ (batch.1 = true → batch.2.watch.last = last)
      ∧ (batch.1 = false → m.Fails w.node batch.2.watch.node) := by
  intro batch
  have hlast : w.last < min (w.last + batchSize) latest :=
    Nat.lt_min.mpr ⟨Nat.lt_add_of_pos_right (by decide), hlt⟩
  have hle : min (w.last + batchSize) latest ≤ w.last + batchSize := Nat.min_le_left ..
  have hlatest : min (w.last + batchSize) latest ≤ latest := Nat.min_le_right ..
  refine ⟨min (w.last + batchSize) latest, hlast, hlatest, ?_⟩
  simp only [batch, Watch.takeBatch]
  generalize min (w.last + batchSize) latest = last at hlast hle hlatest
  have hheaders := hnode.fetchHeaders (w.last + 1) (Nat.le_trans hlatest hshown)
  generalize node.fetchHeaders (w.last + 1) last w.node = answer at hheaders
  obtain ⟨e | headers, s⟩ := answer
  · exact ⟨.failed (w := w) (h.requested hheaders.keeps) rfl hheaders e,
      fun hmore => absurd hmore Bool.false_ne_true, fun _ => hheaders⟩
  · obtain ⟨hkeeps, rfl⟩ := hheaders
    obtain ⟨tracker, hall, hafter, hdepth, hkept⟩ :=
      h.tracker.observeAll hlinked (last + 1 - (w.last + 1))
    have hdeep := h.deep
    have hcount : w.last + (last + 1 - (w.last + 1)) = last := by omega
    rw [hcount] at hafter hkept
    -- The tracker is deeper than a batch is long, so the last block stays tracked.
    have hbefore : tracker.OnChain c w.last :=
      ⟨hafter.linked, hafter.own, hkept _ _ h.tracker.holds (by omega)⟩
    simp only [Chain.values_headersFrom, hall]
    exact h.deliver hnode hlegible hlast hle hkeeps
      (Nat.le_trans (Nat.le_trans hlatest hshown) hkeeps.1) (by rwa [hdepth]) hbefore hafter

/-! ## A poll -/

theorem Steady.catchUp (hnode : node.Serves c m) (hlinked : c.Linked)
    (hlegible : c.Legible plan.pair) {fuel : Nat} : ∀ {w : Watch σ},
    Steady plan c m origin first w → w.last ≤ latest → latest ≤ w.last + fuel →
    latest ≤ m.head w.node →
    Proceeds plan c m origin first w (some latest) (w.catchUp node plan latest fuel) := by
  induction fuel with
  | zero =>
      intro w h hle hfuel _
      obtain rfl : w.last = latest := Nat.le_antisymm hle hfuel
      exact .idle h
  | succ fuel ih =>
      intro w h hle hfuel hshown
      rw [Watch.catchUp]
      split
      · rename_i hreached
        obtain rfl : w.last = latest := Nat.le_antisymm hle hreached
        exact .idle h
      · rename_i hbehind
        obtain ⟨last, hlt, hlatest, hbatch, hmore, hfails⟩ :=
          h.takeBatch hnode hlinked hlegible (Nat.lt_of_not_le hbehind) hshown
        generalize w.takeBatch node plan latest = batch at hbatch hmore hfails
        obtain ⟨more, p⟩ := batch
        cases more with
        | false =>
            exact ⟨hbatch.steady, hbatch.delivers, hbatch.short, hbatch.keeps,
              fun hsame => absurd hsame (hfails rfl).faults_ne⟩
        | true =>
            have hreached : p.watch.last = last := hmore rfl
            have hrest := ih (w := p.watch) hbatch.steady (by omega) (by omega)
              (Nat.le_trans hshown hbatch.keeps.1)
            exact hbatch.following hrest

/-- The newest block is not further away than the follower may be behind. -/
def Near (node : Node σ) (plan : Plan) (w : Watch σ) : Prop :=
  ∀ latest, (node.latest w.node).1 = some latest → latest ≤ w.last + plan.maxCatchUp

theorem Steady.poll (hnode : node.Serves c m) (hlinked : c.Linked)
    (hlegible : c.Legible plan.pair) (h : Steady plan c m origin first w)
    (hnear : w.Near node plan) :
    Proceeds plan c m origin first w (node.latest w.node).1 (w.poll node plan) := by
  have hlatest := hnode.fetchLatest w.node
  rw [Watch.poll]
  generalize node.fetchLatest w.node = answer at hlatest
  obtain ⟨e | latest, s⟩ := answer
  · exact .failed (w := w) (h.requested hlatest.keeps) rfl hlatest e
  · obtain ⟨hkeeps, hread, hge, hle⟩ := hlatest
    have hsteady : Steady plan c m origin first { w with node := s } := h.requested hkeeps
    have hbehind : w.last ≤ latest := Nat.le_trans h.shown hge
    have hfar : ¬plan.maxCatchUp < latest - w.last := by
      have := hnear latest hread
      omega
    have hasked : Proceeds plan c m origin first w (some w.last)
        ⟨{ w with node := s }, [], [], .ok ()⟩ := .asked hsteady rfl hkeeps
    have hrest : Proceeds plan c m origin first { w with node := s } (some latest)
        (Watch.catchUp node plan latest (latest - w.last) { w with node := s }) :=
      hsteady.catchUp hnode hlinked hlegible hbehind
        (Nat.le_of_eq (Nat.add_sub_cancel' hbehind).symm) hle
    have hboth := hasked.following hrest
    rw [hread]
    dsimp only
    by_cases hnone : latest ≤ w.last
    · obtain rfl : w.last = latest := Nat.le_antisymm hbehind hnone
      rw [if_pos hnone]
      exact hasked
    · rw [if_neg hnone, if_neg hfar]
      exact hboth

/-! ## Polls -/

/-- Polls one after the other, and all that they did. -/
def polls (node : Node σ) (plan : Plan) (w : Watch σ) : Nat → Poll σ
  | 0 => ⟨w, [], [], .ok ()⟩
  | n + 1 =>
    let p := polls node plan w n
    following p (p.watch.poll node plan)

/-- A follower that was set up at a block of the chain. Its subscriber, which is no
slave that shares, has its first snapshot; its tracker has observed the block, and
nothing but the chain. -/
structure SetUp (plan : Plan) (c : Chain) (m : Gauge σ) (first : Reserves) (w : Watch σ) :
    Prop where
  subscriber : ∃ id settings world start, settings.sharesAs .slave = false
    ∧ w.subscriber = ((Subscriber.new id (Reserves.venue plan.pair) settings).establish world
      w.last start).subscriber
  holds : w.subscriber.replica.current = some first
  tracker : ∃ depth calls, batchSize < depth ∧ w.tracker = (Tracker.new depth).run calls
  observed : w.tracker.header? w.last = some (c.header w.last)
  own : ∀ n g, w.tracker.header? n = some g → g = c.header n
  shown : w.last ≤ m.head w.node

theorem SetUp.steady (h : w.SetUp plan c m first) : w.Steady plan c m w.last first := by
  obtain ⟨id, settings, world, start, hslave, hsubscriber⟩ := h.subscriber
  obtain ⟨depth, calls, hdepth, htracker⟩ := h.tracker
  obtain ⟨hlinked, hkept⟩ := (Tracker.Linked.new depth).run calls
  have hholds := h.holds
  rw [hsubscriber] at hholds
  rw [Subscriber.establish_alone hslave hholds] at hsubscriber
  rw [← htracker] at hlinked hkept
  have hdeep : depth ≤ w.tracker.depth := hkept ▸ Nat.le_max_left depth 1
  have hmirrors : (Reserves.folded (c.only plan.pair) plan.pair w.last first).Mirrors w.last
      ((Replica.new settings.retention).apply (some first) w.last) :=
    ChainFold.mirrors_supplied _ settings.retention
  refine ⟨?_, ?_, ⟨hlinked, fun {n g} => h.own n g, h.observed⟩, by omega, h.shown⟩
  · rw [hsubscriber]
    rfl
  · rw [hsubscriber]
    exact hmirrors

theorem Steady.polls (hnode : node.Serves c m) (hlinked : c.Linked)
    (hlegible : c.Legible plan.pair) (h : Steady plan c m origin first w) {n : Nat}
    (hnear : ∀ k < n, (w.polls node plan k).watch.Near node plan) :
    ∃ goal, Proceeds plan c m origin first w goal (w.polls node plan n) := by
  induction n with
  | zero => exact ⟨_, .idle h⟩
  | succ n ih =>
      obtain ⟨goal, hbefore⟩ := ih fun k hk => hnear k (Nat.lt_succ_of_lt hk)
      have hpoll := hbefore.steady.poll hnode hlinked hlegible (hnear n (Nat.lt_succ_self n))
      exact ⟨_, hbefore.following hpoll⟩

/-- On a chain that only grows, requests may fail at any time. As long as the
follower is not too far behind, polls deliver ranges of at most one batch, each
from the block after the one before on, and do nothing else; the subscriber holds
what the newest `Sync` log up to the last delivered block tells; and a poll without
a failing request delivers the blocks up to the head that it has read. -/
theorem polls_follow (hnode : node.Serves c m) (hlinked : c.Linked)
    (hlegible : c.Legible plan.pair) (h : w.SetUp plan c m first) (n : Nat)
    (hnear : ∀ k < n, (w.polls node plan k).watch.Near node plan) :
    let p := w.polls node plan n
    Delivers w.last p.watch.last p.notices
      ∧ (∀ notice ∈ p.notices, Short notice)
      ∧ Reserves.Newest c plan.pair w.last p.watch.last first p.watch.subscriber.replica
      ∧ ∀ k < n, let before := (w.polls node plan k).watch
        let poll := before.poll node plan
        m.faults poll.watch.node = m.faults before.node →
          poll.result = .ok () ∧ (node.latest before.node).1 = some poll.watch.last := by
  intro p
  obtain ⟨goal, hall⟩ := h.steady.polls hnode hlinked hlegible hnear
  refine ⟨hall.delivers, hall.short, Reserves.newest_of_mirrors hlegible hall.steady.mirrors,
    fun k hk => ?_⟩
  obtain ⟨goal', hbefore⟩ := h.steady.polls hnode hlinked hlegible
    fun j hj => hnear j (Nat.lt_trans hj hk)
  exact (hbefore.steady.poll hnode hlinked hlegible (hnear k hk)).ends

/-- How far the node of the run below shows its chain. -/
def grownHead (k : Nat) : Nat := if k ≤ 12 then 1010 else 1017

theorem grownHead_le (k : Nat) : grownHead k ≤ grownHead (k + 1) ∧ grownHead k ≤ 1017 := by
  unfold grownHead
  repeat' split
  all_goals omega

/-- The request for the logs of blocks 1001 to 1010 fails, and the node has more
blocks when it is asked again. -/
theorem polls_follow_grown :
    let node := Reserves.traded.node grownHead (· == 11)
    let plan : Plan := ⟨7, 1000, 5000⟩
    let subscriber := ((Subscriber.new ⟨"mainnet", "pair"⟩ (Reserves.venue 7)
      Settings.default).establish ⟨fun _ => .ok ⟨0, 0⟩, none, none, .ok ()⟩ 1000
        (.supplied ⟨7, 8⟩)).subscriber
    let tracker := (Tracker.new Tracker.defaultDepth).run [.observe (Reserves.traded.header 1000)]
    let w : Watch Nat := ⟨subscriber, tracker, 1000, 0⟩
    (w.polls node plan 1).result.isOk = false ∧ (w.polls node plan 1).watch.last = 1000
      ∧ Delivers 1000 1017 (w.polls node plan 2).notices
      ∧ Reserves.Newest Reserves.traded 7 1000 1017 ⟨7, 8⟩
        (w.polls node plan 2).watch.subscriber.replica := by
  intro node plan subscriber tracker w
  have hlinked : Reserves.traded.Linked := ⟨fun _ => rfl, fun _ => rfl⟩
  have hnode : node.Serves Reserves.traded (.counted grownHead (· == 11)) :=
    Reserves.traded.serves_node (fun k => (grownHead_le k).1) (· == 11)
  have hown : ∀ e ∈ tracker.headers.entries, e.2 = Reserves.traded.header e.1 := by decide
  have hsetup : w.SetUp plan Reserves.traded (.counted grownHead (· == 11)) ⟨7, 8⟩ :=
    { subscriber := ⟨_, _, _, _, rfl, rfl⟩
      holds := rfl
      tracker := ⟨_, _, by decide, rfl⟩
      observed := rfl
      own := fun n g hg => hown (n, g) (BlockMap.get?_eq_some_iff.mp hg)
      shown := by decide }
  have hnear : ∀ k < 2, (w.polls node plan k).watch.Near node plan := by
    intro k _ latest hlatest
    have hle := (grownHead_le ((w.polls node plan k).watch.node + 1)).2
    have hhead : latest = grownHead ((w.polls node plan k).watch.node + 1) := by
      simp only [node, Chain.node] at hlatest
      split at hlatest
      · cases hlatest
      · exact (Option.some.inj hlatest).symm
    have hplan : plan.maxCatchUp = 5000 := rfl
    omega
  have hrun : ((w.polls node plan 1).result.isOk, (w.polls node plan 1).watch.last,
      (w.polls node plan 2).watch.last) = (false, 1000, 1017) := by decide +kernel
  obtain ⟨hfailed, hrest⟩ := Prod.mk.inj hrun
  obtain ⟨hstayed, hreached⟩ := Prod.mk.inj hrest
  have hfollow := polls_follow hnode hlinked Reserves.legible_traded hsetup 2 hnear
  dsimp only at hfollow
  rw [hreached] at hfollow
  exact ⟨hfailed, hstayed, hfollow.1, hfollow.2.2.1⟩

end Watch

end ChainReplica
