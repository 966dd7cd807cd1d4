import ChainReplica.Proofs.Runs

/-!
# Runs as slices

A batch can also be split by places. One walk looks for the next log that is in a
block, another one for the end of the run that begins there, and the first goes on
from that end (`slicesFrom`). Each slice they find is as long as its block goes on
(`IsRun`), and what is cut out there are the runs (`run_slicesFrom`).

A list of slices is a partition (`IsPartition`) if it covers the places of all logs
that are in a block, each once and in order, if the logs of a slice are all of its
block, and if no slice could be joined to the next one. The first slice of a
partition has to begin at the first log that is in a block, and to end where the
block does. So there is one partition only (`runs_partition`).
-/

namespace ChainReplica

/-! ## Places -/

def blockAt? (logs : List Log) (place : Nat) : Option Nat := logs[place]?.bind (·.block)

/-- The places from `start` on and before `stop`, and the block of the logs there. -/
structure Slice where
  start : Nat
  stop : Nat
  block : Nat
  deriving DecidableEq

namespace Slice

def places (s : Slice) : List Nat := List.range' s.start (s.stop - s.start)

/-- What a slice cuts out of a batch. -/
def run (logs : List Log) (s : Slice) : Run := ⟨s.block, logs.extract s.start s.stop⟩

theorem mem_places {s : Slice} {i : Nat} : i ∈ s.places ↔ s.start ≤ i ∧ i < s.stop := by
  rw [places, List.mem_range'_1]
  omega

end Slice

variable {logs : List Log} {place stop block i : Nat} {found : List Slice}

theorem lt_length_of_blockAt? (h : blockAt? logs i = some block) : i < logs.length := by
  obtain ⟨log, hlog, -⟩ := Option.bind_eq_some_iff.mp h
  exact (List.getElem?_eq_some_iff.mp hlog).1

theorem drop_eq_cons_of_lt (h : place < logs.length) :
    ∃ log, log.block = blockAt? logs place ∧ logs.drop place = log :: logs.drop (place + 1) :=
  ⟨logs[place], by simp [blockAt?, h], List.drop_eq_getElem_cons h⟩

/-! ## Two walks along a batch -/

/-- The first place from here on whose log is not of the block. -/
def sliceEnd (logs : List Log) (block place : Nat) : Nat :=
  if place < logs.length ∧ blockAt? logs place = some block then
    sliceEnd logs block (place + 1)
  else place
termination_by logs.length - place

theorem le_sliceEnd (logs : List Log) (block place : Nat) : place ≤ sliceEnd logs block place := by
  fun_induction sliceEnd logs block place with
  | case1 place h ih => exact Nat.le_of_succ_le ih
  | case2 place h => exact Nat.le_refl place

/-- The slices from a place on. A log in no block is passed over; any other one
begins a slice, and the walk goes on behind it. Either way it has moved forward. -/
def slicesFrom (logs : List Log) (place : Nat) : List Slice :=
  if place < logs.length then
    match blockAt? logs place with
    | none => slicesFrom logs (place + 1)
    | some block =>
      ⟨place, sliceEnd logs block (place + 1), block⟩
        :: slicesFrom logs (sliceEnd logs block (place + 1))
  else []
termination_by logs.length - place
decreasing_by
  · omega
  · have := le_sliceEnd logs block (place + 1)
    omega

theorem blockAt?_of_lt_sliceEnd (hle : place ≤ i) (hlt : i < sliceEnd logs block place) :
    blockAt? logs i = some block := by
  fun_induction sliceEnd logs block place with
  | case1 place h ih =>
      rcases Nat.eq_or_lt_of_le hle with rfl | hlt'
      · exact h.2
      · exact ih hlt' hlt
  | case2 place h => omega

theorem blockAt?_sliceEnd (logs : List Log) (block place : Nat) :
    blockAt? logs (sliceEnd logs block place) ≠ some block := by
  fun_induction sliceEnd logs block place with
  | case1 place h ih => exact ih
  | case2 place h => exact fun hblock => h ⟨lt_length_of_blockAt? hblock, hblock⟩

/-- All logs from `place` on and before `stop` are of the block, and the one at `stop`
is not. -/
structure IsRun (logs : List Log) (block place stop : Nat) : Prop where
  lt : place < stop
  whole : ∀ i, place ≤ i → i < stop → blockAt? logs i = some block
  ends : blockAt? logs stop ≠ some block

theorem isRun_sliceEnd (hblock : blockAt? logs place = some block) :
    IsRun logs block place (sliceEnd logs block (place + 1)) := by
  refine ⟨le_sliceEnd logs block (place + 1), ?_, blockAt?_sliceEnd logs block (place + 1)⟩
  intro i hfrom hto
  rcases Nat.eq_or_lt_of_le hfrom with rfl | hlt
  · exact hblock
  · exact blockAt?_of_lt_sliceEnd hlt hto

namespace IsRun

/-- A run ends at one place only. -/
theorem eq_sliceEnd (h : IsRun logs block place stop) :
    stop = sliceEnd logs block (place + 1) := by
  have hfound := isRun_sliceEnd (h.whole place (Nat.le_refl place) h.lt)
  rcases Nat.lt_trichotomy stop (sliceEnd logs block (place + 1)) with hlt | heq | hgt
  · exact absurd (hfound.whole stop (Nat.le_of_lt h.lt) hlt) h.ends
  · exact heq
  · exact absurd (h.whole _ (Nat.le_of_lt hfound.lt) hgt) hfound.ends

/-! ## The runs are what the slices cut out -/

theorem block_of_mem (h : IsRun logs block place stop) {log : Log}
    (hlog : log ∈ logs.extract place stop) : log.block = some block := by
  obtain ⟨i, hi⟩ := List.mem_iff_getElem?.mp hlog
  rw [List.extract_eq_take_drop, List.getElem?_take, List.getElem?_drop] at hi
  split at hi
  · rename_i hlt
    have hblock := h.whole (place + i) (by omega) (by omega)
    rwa [blockAt?, hi] at hblock
  · cases hi

/-- The first run of what is left of a batch. -/
theorem runs_drop (h : IsRun logs block place stop) :
    runs (logs.drop place) = ⟨block, logs.extract place stop⟩ :: runs (logs.drop stop) := by
  have hlength := lt_length_of_blockAt? (h.whole place (Nat.le_refl place) h.lt)
  have hlt := h.lt
  have hne : logs.extract place stop ≠ [] := by
    rw [List.extract_eq_take_drop, Ne, List.take_eq_nil_iff, List.drop_eq_nil_iff]
    omega
  have hother : (logs.drop stop).head?.bind (·.block) ≠ some block := by
    rw [List.head?_drop]
    exact h.ends
  calc runs (logs.drop place)
      = runs ((logs.drop place).take (stop - place) ++ (logs.drop place).drop (stop - place)) := by
        rw [List.take_append_drop]
    _ = runs (logs.extract place stop ++ logs.drop stop) := by
        rw [List.drop_drop, Nat.add_sub_cancel' (Nat.le_of_lt hlt), List.extract_eq_take_drop]
    _ = _ := runs_append_of_block hne (fun _ => h.block_of_mem) hother

end IsRun

theorem run_slicesFrom (logs : List Log) (place : Nat) :
    (slicesFrom logs place).map (Slice.run logs) = runs (logs.drop place) := by
  fun_induction slicesFrom logs place with
  | case1 place h hnone ih =>
      obtain ⟨log, hlog, hdrop⟩ := drop_eq_cons_of_lt h
      rw [ih, hdrop, runs_cons_none (hlog.trans hnone)]
  | case2 place h block hblock ih =>
      rw [(isRun_sliceEnd hblock).runs_drop, ← ih]
      rfl
  | case3 place h => rw [List.drop_eq_nil_of_le (Nat.le_of_not_lt h)]; rfl

/-! ## Partitions -/

/-- The places from here on whose logs are in blocks. -/
def numberedPlaces (logs : List Log) (place : Nat) : List Nat :=
  (List.range' place (logs.length - place)).filter fun i => (blockAt? logs i).isSome

theorem numberedPlaces_of_lt (h : place < logs.length) : numberedPlaces logs place =
    (if (blockAt? logs place).isSome then [place] else []) ++ numberedPlaces logs (place + 1) := by
  have hlength : logs.length - place = logs.length - (place + 1) + 1 := by omega
  rw [numberedPlaces, hlength, List.range'_succ, List.filter_cons, numberedPlaces]
  split <;> rfl

/-- A slice whose logs are all in blocks, and the places behind it. -/
theorem numberedPlaces_eq_append (hle : place ≤ stop)
    (hwhole : ∀ i, place ≤ i → i < stop → blockAt? logs i = some block) :
    numberedPlaces logs place = Slice.places ⟨place, stop, block⟩ ++ numberedPlaces logs stop := by
  obtain ⟨count, rfl⟩ := Nat.exists_eq_add_of_le hle
  induction count generalizing place with
  | zero => simp [Slice.places]
  | succ count ih =>
      have hblock := hwhole place (Nat.le_refl place) (by omega)
      have hrest : numberedPlaces logs (place + 1) =
          Slice.places ⟨place + 1, place + 1 + count, block⟩
            ++ numberedPlaces logs (place + 1 + count) :=
        ih (by omega) fun i hfrom hto => hwhole i (by omega) (by omega)
      have hplaces : Slice.places ⟨place, place + (count + 1), block⟩ =
          place :: Slice.places ⟨place + 1, place + 1 + count, block⟩ := by
        simp only [Slice.places, Nat.add_sub_cancel_left, List.range'_succ]
      rw [numberedPlaces_of_lt (lt_length_of_blockAt? hblock), hblock, hrest, hplaces,
        Nat.add_right_comm place 1 count]
      rfl

/-- A partition of the logs from a place on. -/
structure IsPartition (logs : List Log) (place : Nat) (found : List Slice) : Prop where
  /-- Every log that is in a block is in one slice, and nothing else is. -/
  cover : found.flatMap Slice.places = numberedPlaces logs place
  /-- The logs of a slice are of its block, and there is at least one. -/
  whole : ∀ s ∈ found, s.start < s.stop ∧ ∀ i ∈ s.places, blockAt? logs i = some s.block
  /-- Where a slice begins at the end of the one before it, they are of different blocks. -/
  maximal : found.IsChain fun a b => a.stop = b.start → a.block ≠ b.block

namespace IsPartition

/-- A log in no block is passed over. -/
theorem skip_iff (h : place < logs.length) (hnone : blockAt? logs place = none) :
    IsPartition logs place found ↔ IsPartition logs (place + 1) found := by
  have hplaces : numberedPlaces logs place = numberedPlaces logs (place + 1) := by
    rw [numberedPlaces_of_lt h, hnone]
    rfl
  constructor
  · exact fun ⟨hcover, hwhole, hmaximal⟩ => ⟨hcover.trans hplaces, hwhole, hmaximal⟩
  · exact fun ⟨hcover, hwhole, hmaximal⟩ => ⟨hcover.trans hplaces.symm, hwhole, hmaximal⟩

/-- The first slice begins at the first log that is in a block. The others are a partition
of what is behind it. -/
theorem exists_first (h : IsPartition logs place found)
    (hblock : blockAt? logs place = some block) :
    ∃ stop rest, found = ⟨place, stop, block⟩ :: rest ∧ place < stop
      ∧ (∀ i, place ≤ i → i < stop → blockAt? logs i = some block)
      ∧ IsPartition logs stop rest := by
  obtain ⟨hcover, hwhole, hmaximal⟩ := h
  have hplaces : numberedPlaces logs place = place :: numberedPlaces logs (place + 1) := by
    rw [numberedPlaces_of_lt (lt_length_of_blockAt? hblock), hblock]
    rfl
  cases found with
  | nil => cases hcover.trans hplaces
  | cons s rest =>
      obtain ⟨start, stop, own⟩ := s
      obtain ⟨⟨hlt, hown⟩, hrest⟩ := List.forall_mem_cons.mp hwhole
      change start < stop at hlt
      have hfirst : Slice.places ⟨start, stop, own⟩ =
          start :: List.range' (start + 1) (stop - (start + 1)) := by
        have hcount : stop - start = stop - (start + 1) + 1 := by omega
        rw [Slice.places, hcount, List.range'_succ]
      -- The first place that is covered is that of the log.
      obtain rfl : start = place := by
        rw [List.flatMap_cons, hfirst, hplaces] at hcover
        exact (List.cons.inj hcover).1
      obtain rfl : own = block :=
        Option.some.inj ((hown start (by simp [Slice.mem_places, hlt])).symm.trans hblock)
      have hwhole : ∀ i, start ≤ i → i < stop → blockAt? logs i = some own :=
        fun i hfrom hto => hown i (Slice.mem_places.mpr ⟨hfrom, hto⟩)
      refine ⟨stop, rest, rfl, hlt, hwhole, ?_, hrest, hmaximal.tail⟩
      rw [List.flatMap_cons, numberedPlaces_eq_append (Nat.le_of_lt hlt) hwhole] at hcover
      exact List.append_cancel_left hcover

/-- A first slice, with a partition of what is behind it. -/
theorem cons_iff (hblock : blockAt? logs place = some block) :
    IsPartition logs place found ↔ ∃ rest,
      found = ⟨place, sliceEnd logs block (place + 1), block⟩ :: rest
        ∧ IsPartition logs (sliceEnd logs block (place + 1)) rest := by
  constructor
  · intro h
    obtain ⟨stop, rest, rfl, hlt, hwhole, hrest⟩ := h.exists_first hblock
    -- Were the next log of the block, the next slice would begin there and could be joined.
    have hends : blockAt? logs stop ≠ some block := by
      intro hnext
      obtain ⟨stop', rest', rfl, -⟩ := hrest.exists_first hnext
      exact (List.isChain_cons_cons.mp h.maximal).1 rfl rfl
    obtain rfl := IsRun.eq_sliceEnd ⟨hlt, hwhole, hends⟩
    exact ⟨rest, rfl, hrest⟩
  · rintro ⟨rest, rfl, hcover, hwhole, hmaximal⟩
    obtain ⟨hlt, hown, hends⟩ := isRun_sliceEnd hblock
    generalize sliceEnd logs block (place + 1) = stop at *
    refine ⟨?_, List.forall_mem_cons.mpr ⟨⟨hlt, ?_⟩, hwhole⟩, ?_⟩
    · rw [List.flatMap_cons, hcover, numberedPlaces_eq_append (Nat.le_of_lt hlt) hown]
    · intro i hi
      obtain ⟨hfrom, hto⟩ := Slice.mem_places.mp hi
      exact hown i hfrom hto
    · cases rest with
      | nil => exact .singleton _
      | cons next rest =>
          refine List.isChain_cons_cons.mpr ⟨?_, hmaximal⟩
          rintro rfl rfl
          obtain ⟨⟨hfrom, hnext⟩, -⟩ := List.forall_mem_cons.mp hwhole
          exact hends (hnext _ (Slice.mem_places.mpr ⟨Nat.le_refl _, hfrom⟩))

theorem nil_iff (h : logs.length ≤ place) : IsPartition logs place found ↔ found = [] := by
  have hplaces : numberedPlaces logs place = [] := by
    rw [numberedPlaces, Nat.sub_eq_zero_of_le h]
    rfl
  constructor
  · rintro ⟨hcover, hwhole, -⟩
    cases found with
    | nil => rfl
    | cons s rest =>
        obtain ⟨⟨hlt, -⟩, -⟩ := List.forall_mem_cons.mp hwhole
        have hmem : s.start ∈ (s :: rest).flatMap Slice.places :=
          List.mem_append_left _ (Slice.mem_places.mpr ⟨Nat.le_refl _, hlt⟩)
        rw [hcover, hplaces] at hmem
        cases hmem
  · rintro rfl
    exact ⟨hplaces.symm, nofun, .nil⟩

theorem iff_slicesFrom (logs : List Log) (place : Nat) (found : List Slice) :
    IsPartition logs place found ↔ found = slicesFrom logs place := by
  fun_induction slicesFrom logs place generalizing found with
  | case1 place h hnone ih => rw [skip_iff h hnone, ih]
  | case2 place h block hblock ih => simp only [cons_iff hblock, ih, exists_eq_right]
  | case3 place h => exact nil_iff (Nat.le_of_not_lt h)

end IsPartition

/-- The runs of a batch are what its only partition cuts out, and their logs are those
that are in a block. -/
theorem runs_partition (logs : List Log) :
    runs logs = (slicesFrom logs 0).map (Slice.run logs)
      ∧ (∀ found, IsPartition logs 0 found ↔ found = slicesFrom logs 0)
      ∧ (runs logs).flatMap (·.logs) = logs.filter (·.block.isSome) :=
  ⟨(run_slicesFrom logs 0).symm, IsPartition.iff_slicesFrom logs 0, flatMap_runs_eq_filter logs⟩

/-- Two runs of one block are not joined across a log in no block. -/
example : IsPartition
    [⟨7, [], [], some 5, none⟩, ⟨7, [], [], none, none⟩, ⟨7, [], [], some 5, none⟩,
      ⟨7, [], [], some 5, none⟩, ⟨7, [], [], some 6, none⟩] 0
    [⟨0, 1, 5⟩, ⟨2, 4, 5⟩, ⟨4, 5, 6⟩] :=
  ⟨by decide, by decide, by decide⟩

end ChainReplica
