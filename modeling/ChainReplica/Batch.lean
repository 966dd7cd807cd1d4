import ChainReplica.Chain.Basic

/-!
# Batches of logs

A batch is a flat list of logs with the headers of their blocks. `runs` splits
it into maximal runs of neighbouring logs of one block; a log without block
number belongs to no run and ends the one before it. `violations` lists what a
delivery got wrong:

- positions must not decrease along the batch,
- every log must be in a block,
- every block must have its header.
-/

namespace ChainReplica

/-! ## Runs -/

/-- Neighbouring logs of one block. -/
structure Run where
  block : Nat
  logs : List Log

/-- Puts a log of the block in front of the first run. -/
def pushFront (block : Nat) (log : Log) : List Run → List Run
  | [] => [⟨block, [log]⟩]
  | run :: rest => ⟨block, log :: run.logs⟩ :: rest

/-- The maximal runs of a batch, in order. -/
def runs : List Log → List Run
  | [] => []
  | log :: rest =>
    match log.block with
    | none => runs rest
    | some block =>
      if rest.head?.bind (·.block) = some block then pushFront block log (runs rest)
      else ⟨block, [log]⟩ :: runs rest

/-! ## Violations -/

/-- What is wrong with a batch. -/
inductive Violation where
  /-- A log came after one with a greater position. -/
  | outOfOrder (previous found : Nat × Nat)
  /-- The header of a block is missing. -/
  | missingHeader (block : Nat)
  /-- The log at this place of the batch is in no block. -/
  | missingBlock (place : Nat)
  deriving DecidableEq, Repr

def Violation.text : Violation → String
  | .outOfOrder previous found =>
    "log (" ++ toString found.1 ++ ", " ++ toString found.2 ++ ") delivered after ("
      ++ toString previous.1 ++ ", " ++ toString previous.2 ++ ")"
  | .missingHeader block => "missing block header for block " ++ toString block
  | .missingBlock place =>
    "log at batch position " ++ toString place ++ " has no block number"

def positionBefore (a b : Nat × Nat) : Bool := a.1 < b.1 || (a.1 == b.1 && a.2 < b.2)

/-- The violations of single logs, from a place of the batch on. A log is
compared with the nearest one before it that is in a block. -/
def logViolations (place : Nat) (previous : Option (Nat × Nat)) : List Log → List Violation
  | [] => []
  | log :: rest =>
    match log.position? with
    | none => .missingBlock place :: logViolations (place + 1) previous rest
    | some found =>
      let misplaced := match previous with
        | some p => if positionBefore found p then [.outOfOrder p found] else []
        | none => []
      misplaced ++ logViolations (place + 1) (some found) rest

/-- Every number once, where it stands first. -/
def firsts : List Nat → List Nat
  | [] => []
  | n :: rest => n :: (firsts rest).filter (· != n)

/-- The blocks of a batch that have no header, each once. -/
def headerViolations (logs : List Log) (headers : Headers) : List Violation :=
  ((firsts ((runs logs).map (·.block))).filter fun b => !headers.contains b).map .missingHeader

/-- Everything that is wrong with a batch: its logs first, then missing headers. -/
def violations (logs : List Log) (headers : Headers) : List Violation :=
  logViolations 0 none logs ++ headerViolations logs headers

end ChainReplica
