import Mathlib.Data.List.Chain
import ChainReplica.Proofs.FromScratch

/-!
# The requests of a backward scan

A snapshot from scratch asks the node for one chunk of blocks after the other. The
list of its requests is what a node that takes notes has at the end (`Node.noting`),
and it has one of two shapes, by what the scan does: one last request, or a request
and a scan that ends right before it (`Reserves.Backwards`). Everything else follows
from the shape. Neighbouring requests meet without a gap, so block numbers never go
below zero or below the floor, and the requests cover all blocks down to the oldest
one that was asked for.

`Reserves.generate_backwards` puts this together with the answer: as far as the
answer goes, the chunks are one request for the whole range.
-/

namespace ChainReplica

variable {σ : Type}

/-- The node that notes which logs it was asked for. -/
def Node.noting (node : Node σ) : Node (σ × List LogFilter) where
  latest s := ((node.latest s.1).1, (node.latest s.1).2, s.2)
  header n s := ((node.header n s.1).1, (node.header n s.1).2, s.2)
  logs f s := ((node.logs f s.1).1, (node.logs f s.1).2, s.2 ++ [f])

theorem Node.Shows.noting {node : Node σ} {c : Chain} (h : node.Shows c) :
    node.noting.Shows c := fun f s => h f s.1

namespace Reserves

variable {node : Node σ} {c : Chain} {pair : Address} {floor last : Nat} {asked : List LogFilter}

/-! ## Taking notes -/

theorem fetchLogs_noting (first last : Nat) (s : σ) (before : List LogFilter) :
    fetchLogs node.noting pair first last (s, before) =
      ((fetchLogs node pair first last s).1, (fetchLogs node pair first last s).2,
        before ++ [syncFilter pair first last]) := by
  have hnoted : node.noting.logs (syncFilter pair first last) (s, before) =
      ((node.logs (syncFilter pair first last) s).1, (node.logs (syncFilter pair first last) s).2,
        before ++ [syncFilter pair first last]) := rfl
  rw [fetchLogs, hnoted, fetchLogs]
  generalize node.logs (syncFilter pair first last) s = answer
  obtain ⟨_ | logs, s'⟩ := answer <;> rfl

/-- A node that takes notes gives the same answers. -/
theorem scan_noting (target : Nat) (s : σ) (before : List LogFilter) :
    (scan node.noting pair floor target last (s, before)).1 =
      (scan node pair floor target last s).1 := by
  induction last using Nat.strongRecOn generalizing s before with
  | ind last ih =>
      rw [scan, fetchLogs_noting, scan]
      generalize fetchLogs node pair (chunkStart floor last) last s = answer
      obtain ⟨_ | logs, s'⟩ := answer
      · rfl
      · simp only
        cases logs.getLast? with
        | some log => rfl
        | none =>
            simp only
            split
            · rfl
            · refine ih _ ?_ s' _
              rename_i hmore
              unfold chunkStart chunk at *
              omega

/-! ## The shape of the requests -/

/-- The requests of a scan from `last` backwards, as far as it comes. -/
inductive Backwards (pair : Address) (floor : Nat) : Nat → List LogFilter → Prop where
  | one {last : Nat} : floor ≤ last →
      Backwards pair floor last [syncFilter pair (chunkStart floor last) last]
  | more {last : Nat} {rest : List LogFilter} : floor < chunkStart floor last →
      Backwards pair floor (chunkStart floor last - 1) rest →
      Backwards pair floor last (syncFilter pair (chunkStart floor last) last :: rest)

theorem chunkStart_bounds (h : floor ≤ last) :
    floor ≤ chunkStart floor last ∧ chunkStart floor last ≤ last
      ∧ last + 1 - chunkStart floor last ≤ 1000 := by
  unfold chunkStart chunk
  omega

/-- Only the chunk at the floor may be smaller than the others. -/
theorem chunkStart_of_lt (h : floor < chunkStart floor last) :
    chunkStart floor last + 999 = last := by
  unfold chunkStart chunk at *
  omega

namespace Backwards

theorem head (h : Backwards pair floor last asked) :
    ∃ rest, asked = syncFilter pair (chunkStart floor last) last :: rest := by
  cases h with
  | one _ => exact ⟨[], rfl⟩
  | more _ _ => exact ⟨_, rfl⟩

theorem bounds (h : Backwards pair floor last asked) : ∀ f ∈ asked,
    f = syncFilter pair f.first f.last ∧ floor ≤ f.first ∧ f.first ≤ f.last ∧ f.last ≤ last
      ∧ f.last + 1 - f.first ≤ 1000 := by
  induction h with
  | @one last hle =>
      intro f hf
      obtain ⟨hfloor, hstart, hsize⟩ := chunkStart_bounds hle
      rw [List.mem_singleton.mp hf]
      exact ⟨rfl, hfloor, hstart, Nat.le_refl _, hsize⟩
  | @more last rest hlt hrest ih =>
      have hlast := chunkStart_of_lt hlt
      intro f hf
      rcases List.mem_cons.mp hf with rfl | hf
      · have hle : floor ≤ last := by omega
        obtain ⟨hfloor, hstart, hsize⟩ := chunkStart_bounds hle
        exact ⟨rfl, hfloor, hstart, Nat.le_refl _, hsize⟩
      · obtain ⟨hown, hfloor, hrange, hle, hsize⟩ := ih f hf
        exact ⟨hown, hfloor, hrange, by omega, hsize⟩

/-- Each request ends right before the one in front of it begins. -/
theorem adjacent (h : Backwards pair floor last asked) :
    asked.IsChain fun f g => g.last + 1 = f.first := by
  induction h with
  | one _ => exact .singleton _
  | @more last rest hlt hrest ih =>
      obtain ⟨later, rfl⟩ := hrest.head
      refine List.isChain_cons_cons.mpr ⟨?_, ih⟩
      change chunkStart floor last - 1 + 1 = chunkStart floor last
      omega

theorem disjoint (h : Backwards pair floor last asked) :
    asked.Pairwise fun f g => g.last < f.first := by
  induction h with
  | one _ => exact List.pairwise_singleton _ _
  | @more last rest hlt hrest ih =>
      refine List.pairwise_cons.mpr ⟨fun g hg => ?_, ih⟩
      obtain ⟨-, -, -, hle, -⟩ := hrest.bounds g hg
      change g.last < chunkStart floor last
      omega

/-- There are no more requests than the range has chunks. -/
theorem length_le (h : Backwards pair floor last asked) :
    1000 * (asked.length - 1) ≤ last - floor := by
  induction h with
  | one _ => simp
  | @more last rest hlt hrest ih =>
      have hlast := chunkStart_of_lt hlt
      obtain ⟨later, rfl⟩ := hrest.head
      simp only [List.length_cons] at ih ⊢
      omega

/-- Every block down to the oldest one asked for is in some request. -/
theorem covers (h : Backwards pair floor last asked) {oldest : LogFilter}
    (holdest : asked.getLast? = some oldest) {n : Nat} (hge : oldest.first ≤ n) (hle : n ≤ last) :
    ∃ f ∈ asked, f.first ≤ n ∧ n ≤ f.last := by
  induction h with
  | one _ =>
      obtain rfl := Option.some.inj holdest
      exact ⟨_, List.mem_singleton_self _, hge, hle⟩
  | @more last rest hlt hrest ih =>
      by_cases hn : chunkStart floor last ≤ n
      · exact ⟨_, List.mem_cons_self, hn, hle⟩
      · obtain ⟨later, rfl⟩ := hrest.head
        rw [List.getLast?_cons_cons] at holdest
        obtain ⟨f, hf, hcovers⟩ := ih holdest (by omega)
        exact ⟨f, List.mem_cons_of_mem _ hf, hcovers⟩

end Backwards

/-! ## The requests of a scan -/

/-- A scan of a range without logs goes on to its floor. -/
theorem exists_backwards (hnode : node.Shows c) (target : Nat) (hle : floor ≤ last) (s : σ)
    (before : List LogFilter) :
    ∃ asked, (scan node.noting pair floor target last (s, before)).2.2 = before ++ asked
      ∧ Backwards pair floor last asked
      ∧ (c.syncLogs pair floor (last + 1 - floor) = [] →
        ∃ oldest, asked.getLast? = some oldest ∧ oldest.first = floor) := by
  induction last using Nat.strongRecOn generalizing s before with
  | ind last ih =>
      obtain ⟨hfloor, hstart, -⟩ := chunkStart_bounds hle
      have hfetch := fetchLogs_shown hnode pair (chunkStart floor last) last s
      rw [scan, fetchLogs_noting]
      generalize fetchLogs node pair (chunkStart floor last) last s = answer at hfetch
      obtain ⟨answered, s'⟩ := answer
      change answered = _ at hfetch
      subst hfetch
      simp only
      -- A range without logs has none in the chunk, and none before it.
      have hparts := c.syncLogs_split pair hfloor hstart
      cases hlast : (c.syncLogs pair (chunkStart floor last)
          (last + 1 - chunkStart floor last)).getLast? with
      | some log =>
          refine ⟨_, rfl, .one hle, fun hnil => ?_⟩
          have hmem := List.mem_of_getLast? hlast
          rw [(List.append_eq_nil_iff.mp (hparts.symm.trans hnil)).2] at hmem
          cases hmem
      | none =>
          simp only
          split
          · rename_i hend
            exact ⟨_, rfl, .one hle, fun _ => ⟨_, rfl, Nat.le_antisymm hend hfloor⟩⟩
          · rename_i hmore
            have hlt : floor < chunkStart floor last := Nat.lt_of_not_le hmore
            have hbelow :
                chunkStart floor last - 1 + 1 - floor = chunkStart floor last - floor := by
              omega
            obtain ⟨asked, hasked, hshape, hend⟩ :=
              ih (chunkStart floor last - 1) (by omega) (by omega) s'
                (before ++ [syncFilter pair (chunkStart floor last) last])
            refine ⟨_, by rw [hasked, List.append_assoc]; rfl, .more hlt hshape, fun hnil => ?_⟩
            obtain ⟨later, rfl⟩ := hshape.head
            rw [List.getLast?_cons_cons]
            refine hend ?_
            rw [hbelow]
            exact (List.append_eq_nil_iff.mp (hparts.symm.trans hnil)).1

/-- The requests of a snapshot from scratch, and what comes of them: the answer to one
request for the whole range. -/
theorem generate_backwards (hnode : node.Shows c) (pair : Address) (lookback block : Nat)
    (s : σ) :
    let floor := block - lookback
    let noted := generate node.noting pair lookback block (s, [])
    let asked := noted.2.2
    let newest := (c.syncLogs pair floor (block + 1 - floor)).getLast?
    noted.1 = (generate node pair lookback block s).1
      ∧ (∀ f ∈ asked, f = syncFilter pair f.first f.last ∧ floor ≤ f.first ∧ f.first ≤ f.last
        ∧ f.last ≤ block ∧ f.last + 1 - f.first ≤ 1000)
      ∧ asked.head?.map (·.last) = some block
      ∧ asked.IsChain (fun f g => g.last + 1 = f.first)
      ∧ asked.Pairwise (fun f g => g.last < f.first)
      ∧ 1000 * (asked.length - 1) ≤ block - floor
      ∧ (∀ log, newest = some log → noted.1 = (decodeSync log).bind ofPair)
      ∧ (newest = none → (∃ text, noted.1 = .error (.plain .generation text))
        ∧ ∀ n, floor ≤ n → n ≤ block → ∃ f ∈ asked, f.first ≤ n ∧ n ≤ f.last) := by
  intro floor noted asked newest
  have hfloor : floor ≤ block := Nat.sub_le ..
  obtain ⟨requests, hrequests, hshape, hend⟩ :=
    exists_backwards hnode block hfloor s []
  obtain rfl : requests = asked := hrequests.symm
  obtain ⟨rest, hrest⟩ := hshape.head
  refine ⟨scan_noting block s [], hshape.bounds, by rw [hrest]; rfl, hshape.adjacent,
    hshape.disjoint, hshape.length_le, fun log hlog => ?_, fun hnone => ⟨?_, fun n hge hle => ?_⟩⟩
  · refine (scan_shown hnode.noting hfloor (s, [])).trans ?_
    rw [show (c.syncLogs pair floor (block + 1 - floor)).getLast? = some log from hlog]
    rfl
  · have hnothing : noted.1 = .error (nothingFound pair floor block) := by
      refine (scan_shown hnode.noting hfloor (s, [])).trans ?_
      rw [show (c.syncLogs pair floor (block + 1 - floor)).getLast? = none from hnone]
    exact ⟨_, hnothing⟩
  · obtain ⟨oldest, holdest, hfirst⟩ := hend (List.getLast?_eq_none_iff.mp hnone)
    exact hshape.covers holdest (hfirst ▸ hge) hle

/-- The newest log is alone in the second chunk, which is one block long; without this
block one whole chunk is asked for in vain. -/
theorem generate_backwards_traded :
    let node := traded.node (fun _ => 5000) (fun _ => false)
    let found := generate node.noting 7 1000 2010 (0, [])
    let missed := generate node.noting 7 999 2010 (0, [])
    found.1 = .ok ⟨9, 1⟩
      ∧ found.2.2 = [syncFilter 7 1011 2010, syncFilter 7 1010 1010]
      ∧ (∃ text, missed.1 = .error (.plain .generation text))
      ∧ missed.2.2 = [syncFilter 7 1011 2010]
      ∧ 1000 * (found.2.2.length - 1) ≤ 2010 - 1010 := by
  intro node found missed
  have hnode : node.Shows traded := fun _ _ => rfl
  obtain ⟨-, -, -, -, -, hlength, hfound, -⟩ := generate_backwards hnode 7 1000 2010 0
  obtain ⟨-, -, -, -, -, -, -, hmissed⟩ := generate_backwards hnode 7 999 2010 0
  have hnewest : (traded.syncLogs 7 1010 1001).getLast?.map (fun log => (told log).toOption) =
      some (some ⟨9, 1⟩) := by decide +kernel
  have hnone : (traded.syncLogs 7 1011 1000).getLast?.map (·.block) = none := by decide +kernel
  obtain ⟨log, hlog, htold⟩ := Option.map_eq_some_iff.mp hnewest
  refine ⟨(hfound log hlog).trans ?_, by decide +kernel,
    (hmissed (Option.map_eq_none_iff.mp hnone)).1, by decide +kernel, hlength⟩
  change told log = .ok ⟨9, 1⟩
  cases hr : told log with
  | error e => rw [hr] at htold; cases htold
  | ok r => rw [hr] at htold; exact congrArg Except.ok (Option.some.inj htold)

end Reserves

end ChainReplica
