import Mathlib.Data.List.Chain
import ChainReplica.Batch
import ChainReplica.Proofs.Checkpoints

/-!
# Batches in order

The runs of a batch are built up from its end, one log at a time. So they are
those of its parts wherever it is cut between two of them (`exists_cut`), and
known as a whole when its blocks stand one after the other
(`runs_append_of_block`).

Nothing is wrong with a batch when its positions do not decrease along it
(`logViolations_eq_nil_iff`) and every run has its header
(`headerViolations_eq_nil_iff`). The parts of such a batch are such batches
again (`violations_of_append`). Its blocks ascend from run to run, so no block
comes up twice (`runs_of_sorted`).
-/

namespace ChainReplica

/-! ## Runs by the next log -/

variable {block : Nat} {log : Log} {rest : List Log}

theorem runs_cons_none (h : log.block = none) : runs (log :: rest) = runs rest := by
  rw [runs, h]

/-- A log of the block that comes next belongs to its run. -/
theorem runs_cons_same (h : log.block = some block)
    (hnext : rest.head?.bind (·.block) = some block) :
    runs (log :: rest) = pushFront block log (runs rest) := by
  simp only [runs, h, if_pos hnext]

theorem runs_cons_other (h : log.block = some block)
    (hnext : rest.head?.bind (·.block) ≠ some block) :
    runs (log :: rest) = ⟨block, [log]⟩ :: runs rest := by
  simp only [runs, h, if_neg hnext]

theorem runs_of_head : ∀ {logs : List Log},
    logs.head?.bind (·.block) = some block → ∃ first later, runs logs = ⟨block, first⟩ :: later
  | log :: rest, h => by
      have hlog : log.block = some block := h
      by_cases hnext : rest.head?.bind (·.block) = some block
      · rw [runs_cons_same hlog hnext]
        cases runs rest <;> exact ⟨_, _, rfl⟩
      · exact ⟨_, _, runs_cons_other hlog hnext⟩

/-- A log in front of a batch is in no run, in the first one, or a run of its own. -/
theorem runs_cons_cases (log : Log) (rest : List Log) :
    (log.block = none ∧ runs (log :: rest) = runs rest)
      ∨ ∃ block, log.block = some block ∧
        ((∃ first later, runs rest = ⟨block, first⟩ :: later
            ∧ runs (log :: rest) = ⟨block, log :: first⟩ :: later)
          ∨ (rest.head?.bind (·.block) ≠ some block
            ∧ runs (log :: rest) = ⟨block, [log]⟩ :: runs rest)) := by
  cases hlog : log.block with
  | none => exact Or.inl ⟨rfl, runs_cons_none hlog⟩
  | some block =>
      refine Or.inr ⟨block, rfl, ?_⟩
      by_cases hnext : rest.head?.bind (·.block) = some block
      · obtain ⟨first, later, hruns⟩ := runs_of_head hnext
        refine Or.inl ⟨first, later, hruns, ?_⟩
        rw [runs_cons_same hlog hnext, hruns, pushFront]
      · exact Or.inr ⟨hnext, runs_cons_other hlog hnext⟩

theorem logs_of_mem_runs {run : Run} : ∀ {logs : List Log}, run ∈ runs logs →
    run.logs ≠ [] ∧ ∀ log ∈ run.logs, log.block = some run.block
  | log :: rest, h => by
      rcases runs_cons_cases log rest with
        ⟨-, hruns⟩ | ⟨block, hlog, ⟨first, later, hrest, hruns⟩ | ⟨-, hruns⟩⟩ <;> rw [hruns] at h
      · exact logs_of_mem_runs h
      · rcases List.mem_cons.mp h with rfl | hlater
        · have hmem : ⟨block, first⟩ ∈ runs rest := hrest ▸ List.mem_cons_self
          exact ⟨List.cons_ne_nil _ _,
            List.forall_mem_cons.mpr ⟨hlog, (logs_of_mem_runs hmem).2⟩⟩
        · exact logs_of_mem_runs (hrest ▸ List.mem_cons_of_mem _ hlater)
      · rcases List.mem_cons.mp h with rfl | hlater
        · exact ⟨List.cons_ne_nil _ _, List.forall_mem_cons.mpr ⟨hlog, nofun⟩⟩
        · exact logs_of_mem_runs hlater

/-- The blocks of the runs are those of the logs. -/
theorem mem_blocks_runs {block : Nat} : ∀ {logs : List Log},
    block ∈ (runs logs).map (·.block) ↔ some block ∈ logs.map (·.block)
  | [] => by simp [runs]
  | log :: rest => by
      have ih : block ∈ (runs rest).map (·.block) ↔ some block ∈ rest.map (·.block) :=
        mem_blocks_runs
      rw [List.map_cons, List.mem_cons, ← ih]
      rcases runs_cons_cases log rest with
        ⟨hlog, hruns⟩ | ⟨n, hlog, ⟨first, later, hrest, hruns⟩ | ⟨-, hruns⟩⟩
      · simp [hlog, hruns]
      · simp [hlog, hrest, hruns]
      · simp [hlog, hruns]

/-- The logs of the runs are those that are in a block, where they stand. -/
theorem flatMap_runs_eq_filter : ∀ logs : List Log,
    (runs logs).flatMap (·.logs) = logs.filter (·.block.isSome)
  | [] => rfl
  | log :: rest => by
      have ih := flatMap_runs_eq_filter rest
      rcases runs_cons_cases log rest with
        ⟨hlog, hruns⟩ | ⟨block, hlog, ⟨first, later, hrest, hruns⟩ | ⟨-, hruns⟩⟩
      · rw [hruns, ih, List.filter_cons_of_neg (by simp [hlog])]
      · rw [hrest] at ih
        rw [hruns, List.filter_cons_of_pos (by simp [hlog]), ← ih]
        rfl
      · rw [hruns, List.filter_cons_of_pos (by simp [hlog]), ← ih]
        rfl

/-- Every log of a batch that leaves none out is in one run. -/
theorem flatMap_runs {logs : List Log} (hplaced : ∀ log ∈ logs, log.block.isSome = true) :
    (runs logs).flatMap (·.logs) = logs :=
  (flatMap_runs_eq_filter logs).trans (List.filter_eq_self.mpr hplaced)

/-- A batch can be cut behind any of its runs. -/
theorem exists_cut : ∀ (logs : List Log) (k : Nat), ∃ front back, front ++ back = logs
    ∧ runs front = (runs logs).take k ∧ runs back = (runs logs).drop k
  | [], k => ⟨[], [], rfl, by simp [runs], by simp [runs]⟩
  | logs, 0 => ⟨[], logs, rfl, rfl, rfl⟩
  | log :: rest, k + 1 => by
      cases hlog : log.block with
      | none =>
          obtain ⟨front, back, rfl, hfront, hback⟩ := exists_cut rest (k + 1)
          rw [runs_cons_none hlog]
          exact ⟨log :: front, back, rfl, (runs_cons_none hlog).trans hfront, hback⟩
      | some block =>
          by_cases hnext : rest.head?.bind (·.block) = some block
          · obtain ⟨first, later, hruns⟩ := runs_of_head hnext
            obtain ⟨front, back, rfl, hfront, hback⟩ := exists_cut rest (k + 1)
            rw [hruns] at hfront hback
            -- The first run is in the front part, and the log before it joins it there.
            have hfirst : front.head?.bind (·.block) = some block := by
              cases front with
              | nil => cases hfront
              | cons next front => exact hnext
            rw [runs_cons_same hlog hnext, hruns]
            refine ⟨log :: front, back, rfl, ?_, hback⟩
            rw [runs_cons_same hlog hfirst, hfront]
            rfl
          · obtain ⟨front, back, rfl, hfront, hback⟩ := exists_cut rest k
            have hfirst : front.head?.bind (·.block) ≠ some block := by
              cases front with
              | nil => simp
              | cons next front => exact hnext
            rw [runs_cons_other hlog hnext]
            refine ⟨log :: front, back, rfl, ?_, hback⟩
            rw [runs_cons_other hlog hfirst, hfront]
            rfl

/-! ## Runs of whole blocks -/

/-- The logs of a block in front of logs of another block are a run of their
own. -/
theorem runs_append_of_block {block : Nat} : ∀ {logs rest : List Log},
    logs ≠ [] → (∀ log ∈ logs, log.block = some block) →
      rest.head?.bind (·.block) ≠ some block →
      runs (logs ++ rest) = ⟨block, logs⟩ :: runs rest
  | [], _, hne, _, _ => absurd rfl hne
  | [log], rest, _, hlogs, hrest => by
      have hlog : log.block = some block := hlogs log List.mem_cons_self
      exact runs_cons_other hlog hrest
  | log :: next :: logs, rest, _, hlogs, hrest => by
      have hlog : log.block = some block := hlogs log List.mem_cons_self
      have hnext : next.block = some block :=
        hlogs next (List.mem_cons_of_mem _ List.mem_cons_self)
      have ih : runs (next :: logs ++ rest) = ⟨block, next :: logs⟩ :: runs rest :=
        runs_append_of_block (List.cons_ne_nil _ _)
          (fun l hl => hlogs l (List.mem_cons_of_mem _ hl)) hrest
      have hhead : (next :: logs ++ rest).head?.bind (·.block) = some block := by
        simpa using hnext
      rw [List.cons_append, runs_cons_same hlog hhead, ih, pushFront]

/-- Runs come back from their logs, if no two that follow one another are of the
same block. -/
theorem runs_flatMap : ∀ {rs : List Run},
    (∀ run ∈ rs, run.logs ≠ [] ∧ ∀ log ∈ run.logs, log.block = some run.block) →
    rs.IsChain (fun a b => a.block ≠ b.block) → runs (rs.flatMap (·.logs)) = rs
  | [], _, _ => rfl
  | run :: rest, hwhole, hchain => by
      obtain ⟨⟨hne, hlogs⟩, hrest⟩ := List.forall_mem_cons.mp hwhole
      have hother : (rest.flatMap (·.logs)).head?.bind (·.block) ≠ some run.block := by
        cases rest with
        | nil => simp
        | cons next later =>
            obtain ⟨⟨hsome, hnext⟩, -⟩ := List.forall_mem_cons.mp hrest
            obtain ⟨log, logs, hcons⟩ := List.exists_cons_of_ne_nil hsome
            have hlog : log.block = some next.block := hnext log (by simp [hcons])
            simpa [hcons, hlog] using (List.isChain_cons_cons.mp hchain).1.symm
      rw [List.flatMap_cons, runs_append_of_block hne hlogs hother, runs_flatMap hrest hchain.tail]

/-! ## Batches without violations -/

/-- Whether the second log may stand right behind the first: both are in
blocks, and the position does not decrease. -/
def Follows (a b : Log) : Prop :=
  ∃ p q, a.position? = some p ∧ b.position? = some q ∧ positionBefore q p = false

theorem logViolations_eq_nil {place : Nat} {previous : Option (Nat × Nat)} :
    ∀ {logs : List Log}, (∀ log ∈ logs, log.position?.isSome = true) →
      (∀ log ∈ logs, ∀ p q, previous = some p → log.position? = some q →
        positionBefore q p = false) →
      logs.Pairwise Follows → logViolations place previous logs = []
  | [], _, _, _ => rfl
  | log :: rest, hplaced, hprevious, hsorted => by
      obtain ⟨hfirst, hrest⟩ := List.pairwise_cons.1 hsorted
      obtain ⟨found, hfound⟩ := Option.isSome_iff_exists.mp (hplaced log List.mem_cons_self)
      have hlater : ∀ l ∈ rest, ∀ p q, some found = some p → l.position? = some q →
          positionBefore q p = false := by
        rintro l hl p q hp hq
        obtain ⟨p', q', hp', hq', hle⟩ := hfirst l hl
        obtain rfl : p' = p := Option.some.inj (hp'.symm.trans (hfound.trans hp))
        obtain rfl : q' = q := Option.some.inj (hq'.symm.trans hq)
        exact hle
      have hnone : logViolations (place + 1) (some found) rest = [] :=
        logViolations_eq_nil (fun l hl => hplaced l (List.mem_cons_of_mem _ hl)) hlater hrest
      cases previous with
      | none => simp [logViolations, hfound, hnone]
      | some p =>
          have hle := hprevious log List.mem_cons_self p found rfl hfound
          simp [logViolations, hfound, hle, hnone]

theorem positionBefore_iff {p q : Nat × Nat} :
    positionBefore q p = true ↔ Prod.Lex (· < ·) (· < ·) q p := by
  simp [positionBefore, Prod.lex_def]

/-- Positions that do not decrease twice in a row do not decrease overall. -/
theorem positionBefore_trans {p q r : Nat × Nat} (hpq : positionBefore q p = false)
    (hqr : positionBefore r q = false) : positionBefore r p = false := by
  simp only [positionBefore, Bool.or_eq_false_iff, Bool.and_eq_false_iff, decide_eq_false_iff_not,
    beq_eq_false_iff_ne] at hpq hqr ⊢
  omega

/-- Nothing is wrong with single logs if and only if all are in blocks, and none
stands before an earlier one. -/
theorem logViolations_eq_nil_iff {place : Nat} {previous : Option (Nat × Nat)}
    {logs : List Log} : logViolations place previous logs = [] ↔
      (∀ log ∈ logs, log.position?.isSome = true)
        ∧ (∀ log ∈ logs, ∀ p q, previous = some p → log.position? = some q →
          positionBefore q p = false)
        ∧ logs.Pairwise Follows := by
  constructor
  · intro h
    induction logs generalizing place previous with
    | nil => simp
    | cons log rest ih =>
        cases hfound : log.position? with
        | none => simp [logViolations, hfound] at h
        | some found =>
            simp only [logViolations, hfound, List.append_eq_nil_iff] at h
            obtain ⟨hmisplaced, hrest⟩ := h
            obtain ⟨hplaced, hlater, hsorted⟩ := ih hrest
            have hprevious : ∀ p, previous = some p → positionBefore found p = false := by
              rintro p rfl
              simpa using hmisplaced
            refine ⟨?_, ?_, List.pairwise_cons.mpr ⟨?_, hsorted⟩⟩
            · intro l hl
              rcases List.mem_cons.mp hl with rfl | hl
              · rw [hfound]
                rfl
              · exact hplaced l hl
            · intro l hl p q hp hq
              rcases List.mem_cons.mp hl with rfl | hl
              · obtain rfl : found = q := Option.some.inj (hfound.symm.trans hq)
                exact hprevious p hp
              · exact positionBefore_trans (hprevious p hp) (hlater l hl found q rfl hq)
            · intro l hl
              obtain ⟨q, hq⟩ := Option.isSome_iff_exists.mp (hplaced l hl)
              exact ⟨found, q, hfound, hq, hlater l hl found q rfl hq⟩
  · rintro ⟨hplaced, hprevious, hsorted⟩
    exact logViolations_eq_nil hplaced hprevious hsorted

theorem mem_firsts {n : Nat} : ∀ {l : List Nat}, n ∈ firsts l ↔ n ∈ l
  | [] => by simp [firsts]
  | m :: rest => by
      simp only [firsts, List.mem_cons, List.mem_filter, mem_firsts (l := rest)]
      by_cases h : n = m <;> simp [h]

theorem headerViolations_eq_nil {logs : List Log} {headers : Headers}
    (h : ∀ run ∈ runs logs, headers.contains run.block = true) :
    headerViolations logs headers = [] := by
  simp only [headerViolations, List.map_eq_nil_iff, List.filter_eq_nil_iff]
  intro block hblock
  obtain ⟨run, hrun, rfl⟩ := List.mem_map.1 (mem_firsts.mp hblock)
  simp [h run hrun]

theorem headerViolations_eq_nil_iff {logs : List Log} {headers : Headers} :
    headerViolations logs headers = [] ↔
      ∀ run ∈ runs logs, headers.contains run.block = true := by
  constructor
  · intro h run hrun
    simp only [headerViolations, List.map_eq_nil_iff, List.filter_eq_nil_iff] at h
    simpa using h run.block (mem_firsts.mpr (List.mem_map_of_mem hrun))
  · exact headerViolations_eq_nil

/-- Nothing is wrong with the parts of a batch with which nothing is wrong, if
no run goes across. -/
theorem violations_of_append {front back : List Log} {headers : Headers}
    (hruns : runs (front ++ back) = runs front ++ runs back)
    (h : violations (front ++ back) headers = []) :
    violations front headers = [] ∧ violations back headers = [] := by
  obtain ⟨hlogs, hheaders⟩ := List.append_eq_nil_iff.mp h
  obtain ⟨hplaced, -, hsorted⟩ := logViolations_eq_nil_iff.mp hlogs
  obtain ⟨hfront, hback, -⟩ := List.pairwise_append.mp hsorted
  have hknown := headerViolations_eq_nil_iff.mp hheaders
  rw [hruns] at hknown
  have hpart : ∀ logs : List Log, (∀ log ∈ logs, log ∈ front ++ back) → logs.Pairwise Follows →
      (∀ run ∈ runs logs, run ∈ runs front ++ runs back) → violations logs headers = [] := by
    intro logs hmem hordered hrun
    refine List.append_eq_nil_iff.mpr ⟨logViolations_eq_nil ?_ ?_ hordered, ?_⟩
    · exact fun log hlog => hplaced log (hmem log hlog)
    · rintro log - p q ⟨⟩
    · exact headerViolations_eq_nil fun run hr => hknown run (hrun run hr)
  constructor
  · exact hpart front (fun _ h => List.mem_append_left _ h) hfront
      fun _ h => List.mem_append_left _ h
  · exact hpart back (fun _ h => List.mem_append_right _ h) hback
      fun _ h => List.mem_append_right _ h

/-! ## Runs in ascending order -/

theorem Follows.trans {a b c : Log} (hab : Follows a b) (hbc : Follows b c) : Follows a c := by
  obtain ⟨p, q, hp, hq, hle⟩ := hab
  obtain ⟨q', r, hq', hr, hle'⟩ := hbc
  obtain rfl : q = q' := Option.some.inj (hq.symm.trans hq')
  exact ⟨p, r, hp, hr, positionBefore_trans hle hle'⟩

theorem Follows.block_le {a b : Log} {m n : Nat} (h : Follows a b) (ha : a.block = some m)
    (hb : b.block = some n) : m ≤ n := by
  obtain ⟨p, q, hp, hq, hle⟩ := h
  simp only [Log.position?, ha, hb, Option.map_some, Option.some.injEq] at hp hq
  subst hp hq
  simp only [positionBefore, Bool.or_eq_false_iff, decide_eq_false_iff_not] at hle
  exact Nat.le_of_not_lt hle.1

theorem Follows.index_le {a b : Log} {n : Nat} (h : Follows a b) (ha : a.block = some n)
    (hb : b.block = some n) : a.index.getD 0 ≤ b.index.getD 0 := by
  obtain ⟨p, q, hp, hq, hle⟩ := h
  simp only [Log.position?, ha, hb, Option.map_some, Option.some.injEq] at hp hq
  subst hp hq
  simpa [positionBefore] using hle

/-- Behind a log of another block there are only logs of newer ones. -/
theorem newer_of_sorted {block n : Nat} {log : Log} {rest : List Log}
    (hplaced : ∀ l ∈ rest, l.block.isSome = true) (hsorted : (log :: rest).Pairwise Follows)
    (hlog : log.block = some block) (hnext : rest.head?.bind (·.block) ≠ some block)
    (hn : some n ∈ rest.map (·.block)) : block < n := by
  obtain ⟨l, hl, hblock⟩ := List.mem_map.mp hn
  cases rest with
  | nil => cases hl
  | cons next rest =>
      obtain ⟨hfirst, hrest⟩ := List.pairwise_cons.mp hsorted
      obtain ⟨m, hm⟩ := Option.isSome_iff_exists.mp (hplaced next List.mem_cons_self)
      have hle : block ≤ m := (hfirst next List.mem_cons_self).block_le hlog hm
      have hne : m ≠ block := by simpa [hm] using hnext
      have hfrom : m ≤ n := by
        rcases List.mem_cons.mp hl with rfl | hl
        · rw [hm] at hblock
          exact Nat.le_of_eq (Option.some.inj hblock)
        · exact ((List.pairwise_cons.mp hrest).1 l hl).block_le hm hblock
      omega

/-- The runs of a batch in order ascend, and each has all logs of its block. -/
theorem runs_of_sorted : ∀ {logs : List Log}, (∀ log ∈ logs, log.block.isSome = true) →
    logs.Pairwise Follows →
    ((runs logs).map (·.block)).Pairwise (· < ·)
      ∧ ∀ run ∈ runs logs, run.logs = logs.filter (·.block = some run.block)
  | [], _, _ => by simp [runs]
  | log :: rest, hplaced, hsorted => by
      obtain ⟨hsome, hplaced⟩ := List.forall_mem_cons.mp hplaced
      obtain ⟨hascending, hwhole⟩ := runs_of_sorted hplaced (List.pairwise_cons.mp hsorted).2
      -- The log is in no run of another block.
      have hothers : ∀ run ∈ runs rest, log.block ≠ some run.block →
          run.logs = (log :: rest).filter (·.block = some run.block) := by
        intro run hrun hne
        rw [List.filter_cons_of_neg (by simpa using hne)]
        exact hwhole run hrun
      rcases runs_cons_cases log rest with
        ⟨hlog, -⟩ | ⟨block, hlog, ⟨first, later, hrest, hruns⟩ | ⟨hnext, hruns⟩⟩ <;>
        rw [hlog] at hsome hothers
      · cases hsome
      · rw [hrest] at hascending hwhole hothers
        rw [hruns]
        refine ⟨hascending, List.forall_mem_cons.mpr ⟨?_, ?_⟩⟩
        · rw [List.filter_cons_of_pos (by simpa using hlog)]
          exact congrArg (log :: ·) (hwhole ⟨block, first⟩ List.mem_cons_self)
        · intro run hrun
          have hlt : block < run.block :=
            (List.pairwise_cons.mp hascending).1 _ (List.mem_map_of_mem hrun)
          exact hothers run (List.mem_cons_of_mem _ hrun) (by simpa using Nat.ne_of_lt hlt)
      · have hlater : ∀ n, some n ∈ rest.map (·.block) → block < n :=
          fun n => newer_of_sorted hplaced hsorted hlog hnext
        rw [hruns]
        refine ⟨List.pairwise_cons.mpr ⟨?_, hascending⟩, List.forall_mem_cons.mpr ⟨?_, ?_⟩⟩
        · intro n hn
          exact hlater n (mem_blocks_runs.mp hn)
        · have hnone : rest.filter (·.block = some block) = [] := by
            refine List.filter_eq_nil_iff.mpr ?_
            intro l hl hblock
            refine Nat.lt_irrefl block (hlater block ?_)
            exact List.mem_map.mpr ⟨l, hl, by simpa using hblock⟩
          rw [List.filter_cons_of_pos (by simpa using hlog), hnone]
        · intro run hrun
          have hlt : block < run.block :=
            hlater _ (mem_blocks_runs.mp (List.mem_map_of_mem hrun))
          exact hothers run hrun (by simpa using Nat.ne_of_lt hlt)

end ChainReplica
