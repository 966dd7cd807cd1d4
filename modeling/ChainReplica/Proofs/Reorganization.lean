import ChainReplica.Proofs.Parallel
import ChainReplica.Proofs.Rollback
import ChainReplica.Subscriber.Lifecycle
import ChainReplica.Venue.Counter

/-!
# Going back behind a reorganization

A subscriber that followed the old branch of a fork, was told so and went back,
cannot be told from one that never saw the old branch
(`Fork.rewound_agrees`): the two hold the same snapshot at the same pointer,
equally trusted, and have the same checkpoints from the one on that the
rollback returned to. Checkpoints before that one may differ, since the old
branch pruned further.

The proof has two halves. `Extends` follows the old branch and says that it
leaves the checkpoints up to the fork point alone, as far as the window
reaches. `Agree` is the relation between the two runs, and the new branch
preserves it.
-/

namespace ChainReplica

variable {S : Type}

/-! ## Two replicas in step -/

/-- Two replicas that cannot be told apart by what happens after a block. -/
structure Agree (c : Nat) (a b : Replica S) : Prop where
  current : a.current = b.current
  pointer : a.pointer = b.pointer
  invalid : a.invalid = b.invalid
  retention : a.history.retention = b.history.retention
  entries : ∀ e : Nat × S, c ≤ e.1 → (e ∈ a.entries ↔ e ∈ b.entries)

theorem agree_parallel (c : Nat) : Parallel (Agree (S := S) c) where
  current h := h.current
  pointer h := h.pointer
  apply h := by
    refine ⟨rfl, rfl, rfl, h.retention, fun e he => ?_⟩
    rw [Replica.mem_apply, Replica.mem_apply, h.entries e he, h.retention]

theorem Agree.updateAll {c : Nat} {batches : List (Batch S)} {s t : Subscriber S}
    (hsame : s.venue = t.venue ∧ s.settings = t.settings) (h : Agree c s.replica t.replica)
    (hs : s.replica.Topped) (ht : t.replica.Topped)
    (hblocks : ∀ n ∈ blocksOf batches, s.replica.pointer < n)
    (hsorted : (blocksOf batches).Pairwise (· < ·)) :
    Agree c (s.updateAll batches).replica (t.updateAll batches).replica := by
  have htold : List.Forall₂ (Batch.Told s t) batches batches :=
    List.forall₂_same.mpr fun b _ => ⟨rfl, rfl, by rw [Subscriber.Rejects, hsame.2]⟩
  exact (agree_parallel c).updateAll htold hsame.1.symm h hs ht hblocks hsorted

/-! ## The old branch -/

/-- What the updates of blocks after the fork point leave of the replica at the
fork point: no checkpoint up to there is new, and none in the window is gone. -/
structure Extends (fork : Nat) (r₀ r : Replica S) : Prop where
  retention : r.history.retention = r₀.history.retention
  subset : ∀ e ∈ r.entries, e.1 ≤ fork → e ∈ r₀.entries
  kept : ∀ e ∈ r₀.entries, r.pointer - r.history.retention ≤ e.1 → e ∈ r.entries

theorem Extends.refl (fork : Nat) (r : Replica S) : Extends fork r r :=
  ⟨rfl, fun _ he _ => he, fun _ he _ => he⟩

theorem stable_extends {fork : Nat} {r₀ : Replica S} (hr₀ : ∀ e ∈ r₀.entries, e.1 ≤ fork) :
    Stable (Extends fork r₀) (fork < ·) := by
  intro r x n _ h hn hfork
  refine ⟨h.retention, fun e he hle => ?_, fun e he hkept => ?_⟩
  · rcases (Replica.mem_apply.mp he).1 with rfl | ⟨he, -⟩
    · exact absurd hle (Nat.not_le_of_lt hfork)
    · exact h.subset e he hle
  · change n - r.history.retention ≤ e.1 at hkept
    have hle := hr₀ e he
    exact Replica.mem_apply.mpr ⟨Or.inr ⟨h.kept e he (by omega), by omega⟩, hkept⟩

/-! ## The rollback -/

/-- The rollback returns to the replica of the fork point, up to checkpoints
before the one it returns to. -/
theorem Extends.rollback_agrees {fork c : Nat} {x : S} {r₀ r : Replica S}
    (h : Extends fork r₀ r) (hr : r.Topped) (hr₀ : r₀.Topped) (hfork : r₀.pointer ≤ fork)
    (hc : r.history.latestUpTo fork = some (c, x))
    (hwindow : r.pointer - r.history.retention ≤ c) :
    ((r.cut fork).apply (some x) c).Topped ∧ Agree c ((r.cut fork).apply (some x) c) r₀ := by
  obtain ⟨⟨hmem, hle⟩, hmax⟩ := History.latestUpTo_eq_some_iff.mp hc
  obtain ⟨x₀, hx₀, hmem₀⟩ := hr₀.top
  have hmem' : (c, x) ∈ r₀.entries := h.subset _ hmem hle
  have hpointer : r₀.pointer = c := by
    have hc₀ : c ≤ r₀.pointer := hr₀.below _ hmem'
    have hkept : (r₀.pointer, x₀) ∈ r.entries := h.kept _ hmem₀ (Nat.le_trans hwindow hc₀)
    exact Nat.le_antisymm (hmax _ hkept hfork) hc₀
  have hsnapshot : x₀ = x :=
    congrArg Prod.snd (BlockMap.entry_unique hmem₀ hmem' hpointer)
  have hbelow : ∀ e ∈ (r.cut fork).entries, e.1 ≤ c := fun e he =>
    hmax e (Replica.mem_cut.mp he).1 (Replica.mem_cut.mp he).2
  have htopped : ((r.cut fork).apply (some x) c).Topped :=
    Replica.Topped.of_apply hr.awake hbelow
  refine ⟨htopped, ?_, hpointer.symm, hr₀.valid.symm, h.retention, fun e he => ?_⟩
  · rw [hx₀, hsnapshot]
    rfl
  · have hself : e = (c, x) ↔ e ∈ r₀.entries := by
      constructor
      · rintro rfl
        exact hmem'
      · intro he₀
        have hle₀ : e.1 ≤ c := hpointer ▸ hr₀.below e he₀
        exact BlockMap.entry_unique he₀ hmem' (Nat.le_antisymm hle₀ he)
    rw [← hself]
    constructor
    · intro hentry
      have hle₁ : e.1 ≤ c := htopped.below e hentry
      exact BlockMap.entry_unique hentry Replica.mem_apply_self (Nat.le_antisymm hle₁ he)
    · rintro rfl
      exact Replica.mem_apply_self

/-! ## The two runs -/

/-- A fork of the chain, as a subscriber sees it: updates of the blocks that
both branches share, of the old branch and of the new one, each with ever newer
blocks. -/
structure Fork (S : Type) where
  id : Subscription
  venue : Venue S
  settings : Settings
  world : Surroundings S
  /-- The block of the first snapshot. -/
  origin : Nat
  first : S
  /-- The last block that both branches share. -/
  point : Nat
  common : List (Batch S)
  old : List (Batch S)
  new : List (Batch S)
  origin_le : origin ≤ point
  common_blocks : ∀ n ∈ blocksOf common, origin < n ∧ n ≤ point
  common_sorted : (blocksOf common).Pairwise (· < ·)
  old_blocks : ∀ n ∈ blocksOf old, point < n
  old_sorted : (blocksOf old).Pairwise (· < ·)
  new_blocks : ∀ n ∈ blocksOf new, point < n
  new_sorted : (blocksOf new).Pairwise (· < ·)

namespace Fork

variable (f : Fork S)

def begun : Subscriber S :=
  ((Subscriber.new f.id f.venue f.settings).establish f.world f.origin
    (.supplied f.first)).subscriber

def shared : Subscriber S := f.begun.updateAll f.common

def astray : Subscriber S := f.shared.updateAll f.old

/-- The subscriber that went back to the fork point. -/
def rewound : Subscriber S := (f.astray.invalidate.rollback f.point).1

variable {f}

theorem shared_topped : f.shared.replica.Topped ∧ f.shared.replica.pointer ≤ f.point
    ∧ f.shared.replica.history.retention = f.settings.retention := by
  have hbegun : f.begun.replica.Topped := Replica.Topped.of_apply rfl fun e he => nomatch he
  have hP : Stable (fun r : Replica S => r.pointer ≤ f.point
      ∧ r.history.retention = f.settings.retention) (· ≤ f.point) :=
    fun r x n _ hr _ hn => ⟨hn, hr.2⟩
  exact (hbegun.updateAll hP ⟨f.origin_le, rfl⟩ f.common_blocks f.common_sorted).2

theorem astray_extends : f.astray.replica.Topped
    ∧ Extends f.point f.shared.replica f.astray.replica
    ∧ f.astray.venue = f.shared.venue ∧ f.astray.settings = f.shared.settings := by
  obtain ⟨htopped, hpoint, -⟩ := shared_topped (f := f)
  have hP : Stable (Extends f.point f.shared.replica) (f.point < ·) :=
    stable_extends fun e he => Nat.le_trans (htopped.below e he) hpoint
  have hblocks : ∀ n ∈ blocksOf f.old, f.shared.replica.pointer < n ∧ f.point < n :=
    fun n hn => ⟨Nat.lt_of_le_of_lt hpoint (f.old_blocks n hn), f.old_blocks n hn⟩
  obtain ⟨hsame, htopped', hextends⟩ :=
    htopped.updateAll hP (Extends.refl _ _) hblocks f.old_sorted
  exact ⟨htopped', hextends, hsame⟩

/-- A reorganization that was handled leaves no trace. Let the newest
checkpoint up to the fork point be within the window of the pointer on the old
branch. Then right after the rollback, and after each further update of the new
branch, the subscriber agrees with one that never saw the old branch. -/
theorem rewound_agrees (f : Fork S) {c : Nat} {x : S}
    (hc : f.astray.replica.history.latestUpTo f.point = some (c, x))
    (hwindow : f.astray.replica.pointer - f.settings.retention ≤ c)
    {seen : List (Batch S)} (hseen : seen <+: f.new) :
    Agree c (f.rewound.updateAll seen).replica (f.shared.updateAll seen).replica := by
  obtain ⟨hshared, hpoint, hretention⟩ := shared_topped (f := f)
  obtain ⟨hastray, hextends, hvenue, hsettings⟩ := astray_extends (f := f)
  rw [← hretention, ← hextends.retention] at hwindow
  obtain ⟨htopped, hagree⟩ := hextends.rollback_agrees hastray hshared hpoint hc hwindow
  obtain ⟨rest, hrest⟩ := hseen
  have hnew : ∀ n ∈ blocksOf seen, f.point < n := fun n hn =>
    f.new_blocks n (by rw [← hrest, blocksOf, List.flatMap_append]; exact List.mem_append_left _ hn)
  have hsorted : (blocksOf seen).Pairwise (· < ·) := by
    have hall := f.new_sorted
    rw [← hrest, blocksOf, List.flatMap_append] at hall
    exact (List.pairwise_append.1 hall).1
  rw [rewound, Subscriber.rollback_of_some hastray.awake hc]
  refine hagree.updateAll ⟨hvenue, hsettings⟩ htopped hshared (fun n hn => ?_) hsorted
  rw [hagree.pointer]
  exact Nat.lt_of_le_of_lt hpoint (hnew n hn)

/-- One log in each of the given blocks. -/
def onelog (block : Nat) : Batch Counter :=
  ⟨fun _ => .ok ⟨0⟩, [⟨7, [], [], some block, some 0⟩], .empty⟩

/-- Blocks 7 and 8 are replaced by blocks 7 and 9. -/
def replaced : Fork Counter where
  id := ⟨"g", "n"⟩
  venue := Counter.venue 7
  settings := { Settings.default with retention := 2 }
  world := ⟨fun _ => .ok ⟨0⟩, none, none, .ok ()⟩
  origin := 5
  first := ⟨10⟩
  point := 6
  common := [onelog 6]
  old := [onelog 7, onelog 8]
  new := [onelog 7, onelog 9]
  origin_le := by decide
  common_blocks := by decide
  common_sorted := by decide
  old_blocks := by decide
  old_sorted := by decide
  new_blocks := by decide
  new_sorted := by decide

/-- The window of two blocks still reaches the fork point. -/
theorem rewound_agrees_replaced :
    replaced.astray.replica.current = some ⟨13⟩
      ∧ replaced.rewound.replica.current = some ⟨11⟩
      ∧ Agree 6 (replaced.rewound.updateAll replaced.new).replica
        (replaced.shared.updateAll replaced.new).replica := by
  have hc : replaced.astray.replica.history.latestUpTo replaced.point = some (6, ⟨11⟩) := rfl
  have hwindow : replaced.astray.replica.pointer - replaced.settings.retention ≤ 6 := by decide
  exact ⟨rfl, rfl, rewound_agrees replaced hc hwindow (List.prefix_refl _)⟩

end Fork

end ChainReplica
