import Mathlib.Data.Prod.Basic
import ChainReplica.Proofs.Runs

/-!
# What is wrong, place by place

The violations of a batch are found by two walks along it: one that remembers the
last position, and one along the runs that leaves out blocks it has met before. Yet
what either of them says about a log depends on the logs before it only: on the
nearest position among them (`logFaults`) and on the blocks they are in
(`headerFaults`). So the violations are what is said about the logs, one after the
other (`violations_by_place`).
-/

namespace ChainReplica

/-! ## Logs and what is before them -/

section Walk

variable {α : Type} (look : List Log → Log → List α)

/-- What is said about each log behind a front part, in view of all logs before it. -/
def alongBehind (front logs : List Log) : List α :=
  logs.zipIdx.flatMap fun (log, place) => look (front ++ logs.take place) log

theorem alongBehind_cons (front : List Log) (log : Log) (rest : List Log) :
    alongBehind look front (log :: rest) =
      look front log ++ alongBehind look (front ++ [log]) rest := by
  simp [alongBehind, List.zipIdx_cons, List.zipIdx_succ, List.flatMap_map]

end Walk

/-! ## Single logs -/

/-- What is wrong with a log behind others: it is in no block, or its position is
smaller than the nearest one before it. -/
def logFaults (front : List Log) (log : Log) : List Violation :=
  match log.position?, (front.filterMap Log.position?).getLast? with
  | none, _ => [.missingBlock front.length]
  | some found, some previous =>
    if Prod.Lex (· < ·) (· < ·) found previous then [.outOfOrder previous found] else []
  | some _, none => []

/-- The position that is remembered is the nearest one. -/
theorem logViolations_behind : ∀ (front logs : List Log),
    logViolations front.length (front.filterMap Log.position?).getLast? logs =
      alongBehind logFaults front logs
  | _, [] => rfl
  | front, log :: rest => by
      have ih := logViolations_behind (front ++ [log]) rest
      rw [List.length_append, List.length_singleton, List.filterMap_append] at ih
      rw [alongBehind_cons, logViolations, logFaults, ← ih]
      cases hfound : log.position? with
      | none => simp [hfound]
      | some found =>
          cases (front.filterMap Log.position?).getLast? with
          | none => simp [hfound]
          | some previous => simp [hfound, positionBefore_iff]

/-! ## Headers -/

/-- The header that is missed at a log: that of its block, if no log before it is in
this block. -/
def headerFaults (headers : Headers) (front : List Log) (log : Log) : List Violation :=
  match log.block with
  | none => []
  | some block =>
    if some block ∈ front.map (·.block) ∨ headers.contains block = true then []
    else [.missingHeader block]

theorem firsts_cons_self (n : Nat) (l : List Nat) : firsts (n :: n :: l) = firsts (n :: l) := by
  simp [firsts]

/-- What is missing does not depend on how often a block comes up in a row. -/
theorem firsts_blocks_runs : ∀ logs : List Log,
    firsts ((runs logs).map (·.block)) = firsts (logs.filterMap (·.block))
  | [] => rfl
  | log :: rest => by
      have ih := firsts_blocks_runs rest
      rcases runs_cons_cases log rest with
        ⟨hlog, hruns⟩ | ⟨n, hlog, ⟨first, later, hrest, hruns⟩ | ⟨-, hruns⟩⟩
      · rw [hruns, ih, List.filterMap_cons_none hlog]
      · have hfirst : firsts (n :: later.map (·.block)) = firsts (rest.filterMap (·.block)) := by
          rw [← ih, hrest, List.map_cons]
        calc firsts ((runs (log :: rest)).map (·.block))
            = firsts (n :: later.map (·.block)) := by rw [hruns, List.map_cons]
          _ = firsts (n :: n :: later.map (·.block)) := (firsts_cons_self n _).symm
          _ = n :: (firsts (rest.filterMap (·.block))).filter (· != n) := by rw [firsts, hfirst]
          _ = firsts ((log :: rest).filterMap (·.block)) := by
              rw [List.filterMap_cons_some hlog, firsts]
      · rw [hruns, List.filterMap_cons_some hlog, List.map_cons, firsts, firsts, ih]

/-- Of the blocks behind a front part, those that are not in it. -/
theorem headerViolations_behind (headers : Headers) : ∀ front logs : List Log,
    ((firsts (logs.filterMap (·.block))).filter fun b =>
        !decide (some b ∈ front.map (·.block) ∨ headers.contains b = true)).map .missingHeader =
      alongBehind (headerFaults headers) front logs
  | _, [] => rfl
  | front, log :: rest => by
      rw [alongBehind_cons, ← headerViolations_behind headers (front ++ [log]) rest, headerFaults]
      cases hlog : log.block with
      | none => simp [List.filterMap_cons_none hlog, hlog]
      | some n =>
          -- Further on, a block is left out if it is that of the log, or for an earlier reason.
          have hlater : ∀ b,
              (!decide (some b ∈ (front ++ [log]).map (·.block) ∨ headers.contains b = true)) =
                ((!decide (some b ∈ front.map (·.block) ∨ headers.contains b = true))
                  && b != n) := by
            intro b
            by_cases hb : b = n <;> simp [hlog, hb]
          simp only [hlater]
          rw [List.filterMap_cons_some hlog, firsts, List.filter_cons, List.filter_filter]
          by_cases hmet : some n ∈ front.map (·.block) ∨ headers.contains n = true
          · simp only [hmet, decide_true, Bool.not_true, Bool.false_eq_true, if_false, if_true,
              List.nil_append]
          · simp only [hmet, decide_false, Bool.not_false, if_true, if_false, List.map_cons,
              List.singleton_append]

/-- The violations of a batch: of each log whether it is in a block and stands behind
those before it, then of each block whether it has a header. -/
theorem violations_by_place (logs : List Log) (headers : Headers) :
    violations logs headers =
      logs.zipIdx.flatMap (fun (log, place) => logFaults (logs.take place) log) ++
        logs.zipIdx.flatMap fun (log, place) => headerFaults headers (logs.take place) log := by
  have hlogs : logViolations 0 none logs = alongBehind logFaults [] logs :=
    logViolations_behind [] logs
  have hheaders : headerViolations logs headers = alongBehind (headerFaults headers) [] logs := by
    rw [← headerViolations_behind, headerViolations, firsts_blocks_runs]
    simp
  rw [violations, hlogs, hheaders]
  rfl

/-- A log without index stands at the front of its block, and one in no block is
passed over. -/
example : violations [⟨7, [], [], some 7, some 2⟩, ⟨7, [], [], none, some 0⟩,
      ⟨7, [], [], some 7, none⟩, ⟨7, [], [], some 6, some 0⟩, ⟨7, [], [], some 7, some 0⟩]
      (.ofList [⟨6, 6, 5, 0⟩]) =
    [.missingBlock 1, .outOfOrder (7, 2) (7, 0), .outOfOrder (7, 0) (6, 0), .missingHeader 7] := by
  decide

end ChainReplica
