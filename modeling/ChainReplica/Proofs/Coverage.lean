import ChainReplica.Node.Script
import ChainReplica.Watch

/-!
# What a poll delivers

The batches that a poll delivers follow each other without a gap, from the last
block processed on (`Delivers`), whatever the node answers. A poll that does not
start over ends in one of two ways (`Follows`): it stays where the deliveries
end, or it goes to a fork point.

Headers are shown to the tracker before the logs of their blocks are fetched, so
the tracker can be ahead of the last block processed, and so can the fork point
that is found in it. `Watch.poll_covers_iff` is the exact condition: a poll
leaves no block out if and only if no fork point is after the newest block
delivered. `Watch.poll_skips` is a run in which one is.
-/

namespace ChainReplica

/-! ## Notices of a poll -/

/-- Whether the notices tell of the delivery of a block. A delivery is noted only
if the subscriber accepted the update. -/
def Covered (notices : List Notice) (block : Nat) : Prop :=
  ∃ first last events pointer held,
    .delivered first last events pointer held ∈ notices ∧ first ≤ block ∧ block ≤ last

/-- The newest block that the notices tell of, or else the last one before. -/
def newestDelivered (last : Nat) : List Notice → Nat
  | [] => last
  | .delivered _ delivered _ _ _ :: rest => newestDelivered delivered rest
  | .rewound _ :: rest => newestDelivered last rest
  | .restarted _ :: rest => newestDelivered last rest

theorem covered_cons {notice : Notice} {rest : List Notice} {block : Nat} :
    Covered (notice :: rest) block ↔
      (∃ first last events pointer held, notice = .delivered first last events pointer held
        ∧ first ≤ block ∧ block ≤ last) ∨ Covered rest block := by
  constructor
  · rintro ⟨first, last, events, pointer, held, hmem, hrange⟩
    rcases List.mem_cons.mp hmem with heq | hmem
    · exact Or.inl ⟨first, last, events, pointer, held, heq.symm, hrange⟩
    · exact Or.inr ⟨first, last, events, pointer, held, hmem, hrange⟩
  · rintro (⟨first, last, events, pointer, held, rfl, hrange⟩ |
      ⟨first, last, events, pointer, held, hmem, hrange⟩)
    · exact ⟨first, last, events, pointer, held, List.mem_cons_self, hrange⟩
    · exact ⟨first, last, events, pointer, held, List.mem_cons_of_mem _ hmem, hrange⟩

theorem not_covered_rewound {fork block : Nat} : ¬Covered [.rewound fork] block := by
  rintro ⟨_, _, _, _, _, hmem, -⟩
  cases List.mem_singleton.mp hmem

/-- Deliveries that follow each other without a gap, from the block after the
first number up to the second. -/
inductive Delivers : Nat → Nat → List Notice → Prop where
  | done (last : Nat) : Delivers last last []
  | next {start last final events pointer : Nat} {held : Option Reserves} {rest : List Notice} :
      start < last → Delivers last final rest →
      Delivers start final (.delivered (start + 1) last events pointer held :: rest)

namespace Delivers

variable {start final block fork : Nat} {notices : List Notice}

theorem le (h : Delivers start final notices) : start ≤ final := by
  induction h with
  | done last => exact Nat.le_refl last
  | next hlt _ ih => exact Nat.le_trans (Nat.le_of_lt hlt) ih

/-- Exactly the blocks in between are delivered, also when other notices that
deliver nothing stand behind. -/
theorem covered_append_iff {others : List Notice} (hothers : ¬Covered others block)
    (h : Delivers start final notices) :
    Covered (notices ++ others) block ↔ start < block ∧ block ≤ final := by
  induction h with
  | done last =>
      refine ⟨fun hcovered => absurd hcovered hothers, ?_⟩
      rintro ⟨hlt, hle⟩
      exact absurd hle (Nat.not_le_of_lt hlt)
  | @next start last final events pointer held rest hlt hrest ih =>
      rw [List.cons_append, covered_cons, ih]
      have hle := hrest.le
      constructor
      · rintro (⟨first, last', _, _, _, heq, hfirst, hlast⟩ | ⟨hstart, hfinal⟩)
        · cases heq
          exact ⟨hfirst, Nat.le_trans hlast hle⟩
        · exact ⟨Nat.lt_trans hlt hstart, hfinal⟩
      · rintro ⟨hstart, hfinal⟩
        by_cases hlast : block ≤ last
        · exact Or.inl ⟨_, _, _, _, _, rfl, hstart, hlast⟩
        · exact Or.inr ⟨Nat.lt_of_not_le hlast, hfinal⟩

theorem covered_iff (h : Delivers start final notices) :
    Covered notices block ↔ start < block ∧ block ≤ final := by
  have hnone : ¬Covered [] block := by
    rintro ⟨_, _, _, _, _, hmem, -⟩
    cases hmem
  have happend := h.covered_append_iff hnone
  rwa [List.append_nil] at happend

theorem newestDelivered_append {others : List Notice}
    (hothers : ∀ last, newestDelivered last others = last) (h : Delivers start final notices) :
    newestDelivered start (notices ++ others) = final := by
  induction h with
  | done last => exact hothers last
  | next _ _ ih => exact ih

theorem not_rewound (h : Delivers start final notices) : .rewound fork ∉ notices := by
  induction h with
  | done last => exact List.not_mem_nil
  | next _ _ ih =>
      intro hmem
      rcases List.mem_cons.mp hmem with heq | hmem
      · cases heq
      · exact ih hmem

end Delivers

/-! ## How a poll ends -/

/-- What happens from the last block processed on: deliveries, and then nothing
or a rewind - unless the follower starts over. -/
def Poll.Follows {σ : Type} (p : Poll σ) (start : Nat) : Prop :=
  (∃ block, .restarted block ∈ p.notices)
    ∨ ∃ final deliveries, Delivers start final deliveries
      ∧ ((p.notices = deliveries ∧ p.watch.last = final)
        ∨ ∃ fork, p.notices = deliveries ++ [.rewound fork] ∧ p.watch.last = fork)

namespace Poll.Follows

variable {σ : Type} {p : Poll σ} {start : Nat}

theorem of_nil (hnotices : p.notices = []) (hlast : p.watch.last = start) : p.Follows start :=
  Or.inr ⟨start, [], .done start, Or.inl ⟨hnotices, hlast⟩⟩

theorem following {earlier : Poll σ} {last events pointer : Nat} {held : Option Reserves}
    (hlt : start < last) (h : p.Follows last)
    (hnotices : earlier.notices = [.delivered (start + 1) last events pointer held]) :
    (Watch.following earlier p).Follows start := by
  have hcons : (Watch.following earlier p).notices =
      .delivered (start + 1) last events pointer held :: p.notices := by
    rw [Watch.following, hnotices]
    rfl
  rcases h with ⟨block, hmem⟩ | ⟨final, deliveries, hdelivers, hend⟩
  · exact Or.inl ⟨block, by rw [hcons]; exact List.mem_cons_of_mem _ hmem⟩
  · have hmore : Delivers start final
        (.delivered (start + 1) last events pointer held :: deliveries) := .next hlt hdelivers
    refine Or.inr ⟨final, _, hmore, ?_⟩
    rcases hend with ⟨hall, hlast⟩ | ⟨fork, hall, hlast⟩
    · exact Or.inl ⟨by rw [hcons, hall], hlast⟩
    · exact Or.inr ⟨fork, by rw [hcons, hall]; rfl, hlast⟩

end Poll.Follows

namespace Watch

variable {σ : Type} {node : Node σ} {plan : Plan} {w : Watch σ}

theorem rewindTo_follows (w : Watch σ) (fork start : Nat) : (w.rewindTo fork).Follows start :=
  Or.inr ⟨start, [], .done start, Or.inr ⟨fork, rfl, rfl⟩⟩

theorem restartAt_follows (w : Watch σ) (block start : Nat) : (w.restartAt block).Follows start :=
  Or.inl ⟨block, List.mem_cons_self⟩

theorem resolve_follows (node : Node σ) (w : Watch σ) (number : Nat) :
    (w.resolve node number).Follows w.last := by
  rw [resolve]
  split
  · exact .of_nil rfl rfl
  · dsimp only
    split
    · exact rewindTo_follows _ _ _
    · exact restartAt_follows _ _ _

/-- A batch is delivered as a whole, or not at all. -/
theorem deliver_cases (node : Node σ) (plan : Plan) (w : Watch σ) (first last : Nat)
    (headers : Headers) :
    let p := w.deliver node plan first last headers
    (p.result.isOk = false ∧ p.notices = [] ∧ p.watch.last = w.last)
      ∨ ∃ events pointer held, p.notices = [.delivered first last events pointer held]
        ∧ p.watch.last = last := by
  intro p
  rcases hlogs : Reserves.fetchLogs node plan.pair first last w.node with ⟨logs | logs, s⟩
  · have hp : p = failed { w with node := s } logs := by
      simp only [p, deliver, hlogs]
    rw [hp]
    exact Or.inl ⟨rfl, rfl, rfl⟩
  · cases hresult : (w.subscriber.update (source node plan s) logs headers).result with
    | error e =>
        simp only [p, deliver, hlogs, hresult]
        exact Or.inl ⟨rfl, trivial, trivial⟩
    | ok _ =>
        simp only [p, deliver, hlogs, hresult]
        exact Or.inr ⟨_, _, _, rfl, trivial⟩

/-- A poll that ends a batch, or that delivered the blocks up to `last` and may
go on. -/
def Advances (start last : Nat) (more : Bool) (p : Poll σ) : Prop :=
  p.Follows start ∧ (more = true → ∃ events pointer held,
    p.notices = [.delivered (start + 1) last events pointer held] ∧ p.watch.last = last)

theorem deliver_advances {start last : Nat} (node : Node σ) (plan : Plan) (headers : Headers)
    (hlt : start < last) (hsame : w.last = start) :
    let p := w.deliver node plan (start + 1) last headers
    Advances start last p.result.isOk p := by
  rcases deliver_cases node plan w (start + 1) last headers with
    ⟨hfailed, hnotices, hlast⟩ | ⟨events, pointer, held, hnotices, hlast⟩
  · refine ⟨.of_nil hnotices (hlast.trans hsame), fun hok => ?_⟩
    exact absurd (hfailed.symm.trans hok) Bool.false_ne_true
  · exact ⟨Or.inr ⟨last, _, .next hlt (.done last), Or.inl ⟨hnotices, hlast⟩⟩,
      fun _ => ⟨events, pointer, held, hnotices, hlast⟩⟩

theorem takeBatch_advances (node : Node σ) (plan : Plan) (w : Watch σ) {latest : Nat}
    (hlatest : w.last < latest) :
    ∃ last, w.last < last
      ∧ Advances w.last last (w.takeBatch node plan latest).1 (w.takeBatch node plan latest).2 := by
  have hlt : w.last < min (w.last + batchSize) latest :=
    Nat.lt_min.mpr ⟨Nat.lt_add_of_pos_right (by decide), hlatest⟩
  refine ⟨_, hlt, ?_⟩
  rw [takeBatch]
  dsimp only
  rcases node.fetchHeaders (w.last + 1) (min (w.last + batchSize) latest) w.node with
    ⟨e | headers, s⟩
  · exact ⟨.of_nil rfl rfl, nofun⟩
  · dsimp only
    rcases observeAll w.tracker headers.values with ⟨linkage, tracker⟩
    cases linkage with
    | extended => exact deliver_advances node plan headers hlt rfl
    | known => exact deliver_advances node plan headers hlt rfl
    | reorg forkPoint depth => exact ⟨rewindTo_follows _ _ _, nofun⟩
    | unlinked number =>
        exact ⟨resolve_follows node { w with node := s, tracker := tracker } number, nofun⟩

theorem catchUp_follows {latest : Nat} : ∀ {fuel : Nat} {w : Watch σ},
    (w.catchUp node plan latest fuel).Follows w.last
  | 0, w => .of_nil rfl rfl
  | fuel + 1, w => by
      rw [catchUp]
      split
      · exact .of_nil rfl rfl
      · rename_i hlatest
        obtain ⟨last, hlt, hfollows, hmore⟩ :=
          takeBatch_advances node plan w (Nat.lt_of_not_le hlatest)
        generalize w.takeBatch node plan latest = batch at hfollows hmore
        obtain ⟨more, p⟩ := batch
        cases more with
        | false => exact hfollows
        | true =>
            obtain ⟨events, pointer, held, hnotices, hlast⟩ := hmore rfl
            have hrest : (catchUp node plan latest fuel p.watch).Follows p.watch.last :=
              catchUp_follows
            rw [hlast] at hrest
            exact hrest.following hlt hnotices

/-- A poll leaves no gap between its deliveries, whatever the node answers. -/
theorem poll_follows (node : Node σ) (plan : Plan) (w : Watch σ) :
    (w.poll node plan).Follows w.last := by
  rw [poll]
  rcases node.fetchLatest w.node with ⟨e | latest, s⟩
  · exact .of_nil rfl rfl
  · dsimp only
    split
    · exact .of_nil rfl rfl
    · split
      · exact Or.inl ⟨latest, List.mem_cons_self⟩
      · exact catchUp_follows (w := { w with node := s })

/-! ## Which polls leave blocks out -/

/-- The states of a follower, from the time it was set up on. -/
inductive Reached (node : Node σ) (plan : Plan) : Watch σ → Prop where
  | start {subscriber : Subscriber Reserves} {startBlock : Option Nat} {s s' : σ} {w : Watch σ} :
      Watch.start node plan subscriber startBlock s = (.ok w, s') → Reached node plan w
  | poll {w : Watch σ} : Reached node plan w → Reached node plan (w.poll node plan).watch

/-- The exact condition under which a poll that does not start over leaves no
block out between the last one processed before and the last one processed
after it: every fork point it goes to is one it has delivered, or an older one. -/
theorem poll_covers_iff (node : Node σ) (plan : Plan) (w : Watch σ)
    (hrestarted : ∀ block, .restarted block ∉ (w.poll node plan).notices) :
    (∀ block, w.last < block → block ≤ (w.poll node plan).watch.last →
        Covered (w.poll node plan).notices block)
      ↔ ∀ fork, .rewound fork ∈ (w.poll node plan).notices →
        fork ≤ newestDelivered w.last (w.poll node plan).notices := by
  rcases poll_follows node plan w with ⟨block, hmem⟩ | ⟨final, deliveries, hdelivers, hend⟩
  · exact absurd hmem (hrestarted block)
  · rcases hend with ⟨hnotices, hlast⟩ | ⟨fork, hnotices, hlast⟩
    · rw [hnotices, hlast]
      refine ⟨fun _ fork hfork => absurd hfork hdelivers.not_rewound, fun _ block hlt hle => ?_⟩
      exact hdelivers.covered_iff.mpr ⟨hlt, hle⟩
    · rw [hnotices, hlast, hdelivers.newestDelivered_append fun _ => rfl]
      have hcovered : ∀ block, Covered (deliveries ++ [.rewound fork]) block ↔
          w.last < block ∧ block ≤ final := fun _ =>
        hdelivers.covered_append_iff not_covered_rewound
      constructor
      · intro hall fork' hfork'
        rcases List.mem_append.mp hfork' with hmem | hmem
        · exact absurd hmem hdelivers.not_rewound
        · obtain rfl : fork' = fork := by simpa using hmem
          -- A fork point after every delivery would be a block that is left out itself.
          refine Nat.le_of_not_lt fun hafter => ?_
          have hstart : w.last < fork' := Nat.lt_of_le_of_lt hdelivers.le hafter
          have := ((hcovered fork').mp (hall fork' hstart (Nat.le_refl _))).2
          exact absurd this (Nat.not_le_of_lt hafter)
      · intro hback block hlt hle
        have hfork : fork ≤ final := hback fork (by simp)
        exact (hcovered block).mpr ⟨hlt, Nat.le_trans hle hfork⟩

/-- A plan for the pair at address 7. -/
def plainPlan : Plan := ⟨7, 5000, 1000⟩

/-- A chain that grows from block 100 to 105 and then to 106, where it is on a
fork from block 104 on. The listed requests fail. -/
def forkingNode (failing : List Nat) : Script :=
  .new ⟨100, [], []⟩ [⟨100, [], []⟩, ⟨105, [], []⟩, ⟨106, [(104, 1)], []⟩]
    [⟨⟨7, [Reserves.syncTopic], List.replicate 64 0, some 100, some 0⟩, 0⟩] failing

/-- The follower that is set up on that node. -/
def follower (failing : List Nat) : Except Failure (Watch Script) :=
  (Watch.start Script.movingNode plainPlan
    (.new ⟨"mainnet", "pair"⟩ (Reserves.venue 7) Settings.default) none (forkingNode failing)).1

theorem reached_follower {failing : List Nat} {w : Watch Script} (h : follower failing = .ok w) :
    Reached Script.movingNode plainPlan w :=
  .start (Prod.ext h rfl)

/-- Nothing fails: blocks 101 to 105 are delivered. -/
theorem poll_covers_plain :
    ∃ w, Reached Script.movingNode plainPlan w ∧ w.last = 100
      ∧ ∀ block, 100 < block → block ≤ 105 →
        Covered (w.poll Script.movingNode plainPlan).notices block := by
  have hrun : (follower []).toOption.map (fun w =>
      let p := w.poll Script.movingNode plainPlan
      (w.last, p.watch.last, p.notices)) =
        some (100, 105, [.delivered 101 105 0 100 (some ⟨0, 0⟩)]) := by decide +kernel
  cases hw : follower [] with
  | error e => rw [hw] at hrun; cases hrun
  | ok w =>
      rw [hw] at hrun
      obtain ⟨hlast, hrest⟩ := Prod.mk.inj (Option.some.inj hrun)
      obtain ⟨hmoved, hnotices⟩ := Prod.mk.inj hrest
      have hcovers := poll_covers_iff Script.movingNode plainPlan w (by simp [hnotices])
      refine ⟨w, reached_follower hw, hlast, fun block hlt hle => ?_⟩
      refine hcovers.mpr (by simp [hnotices]) block ?_ ?_
      · rwa [hlast]
      · rwa [hmoved]

/-- The request for the logs of blocks 101 to 105 fails, and then the chain
forks behind block 103: the follower goes forward from block 100 to 103, and
blocks 101 to 103 are never delivered. -/
theorem poll_skips :
    ∃ w, Reached Script.movingNode plainPlan w
      ∧ w.last = 100 ∧ (w.poll Script.movingNode plainPlan).watch.last = 103
      ∧ (∀ block, .restarted block ∉ (w.poll Script.movingNode plainPlan).notices)
      ∧ ∀ block, ¬Covered (w.poll Script.movingNode plainPlan).notices block := by
  have hrun : (follower [7]).toOption.map (fun w =>
      let w₁ := (w.poll Script.movingNode plainPlan).watch
      let p := w₁.poll Script.movingNode plainPlan
      (w₁.last, p.watch.last, p.notices)) = some (100, 103, [.rewound 103]) := by decide +kernel
  cases hw : follower [7] with
  | error e => rw [hw] at hrun; cases hrun
  | ok w =>
      rw [hw] at hrun
      obtain ⟨hlast, hrest⟩ := Prod.mk.inj (Option.some.inj hrun)
      obtain ⟨hmoved, hnotices⟩ := Prod.mk.inj hrest
      refine ⟨_, (reached_follower hw).poll, hlast, hmoved, ?_, ?_⟩
      · simp [hnotices]
      · rw [hnotices]
        exact fun _ => not_covered_rewound

end Watch

end ChainReplica
