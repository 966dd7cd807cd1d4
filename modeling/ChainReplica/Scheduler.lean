/-!
# Jobs that are retried

A job is attempted until it is done. The first attempt is made at once; after a
failure the next one waits, and each wait is twice the one before, up to a
greatest one. A wait of no time is none: the job is attempted again before
others get their turn. Jobs have keys, and while a job is alive, another one with
its key is not accepted.

The scheduler does not know what a job does: `wake` is given the attempt, and a
state that the attempts change. Jobs that are due together are attempted in the
order of the times they were due at.
-/

namespace ChainReplica

/-- A live job. -/
structure Task (J : Type) where
  key : String
  job : J
  /-- How often it was attempted. -/
  attempts : Nat
  /-- When it is attempted next. -/
  due : Nat
  /-- How long it waits after its next failure. -/
  delay : Nat
  deriving DecidableEq, Repr

/-- Live jobs in the order in which they began to wait. -/
structure Scheduler (J : Type) where
  initialDelay : Nat
  maxDelay : Nat
  tasks : List (Task J)
  /-- The keys that jobs which are done have not given back yet. -/
  finished : List String
  deriving DecidableEq, Repr

namespace Scheduler

variable {J : Type}

def new (initialDelay maxDelay : Nat) : Scheduler J := ⟨initialDelay, maxDelay, [], []⟩

/-- The keys that are taken. -/
def keys (s : Scheduler J) : List String := s.tasks.map (·.key) ++ s.finished

def isRunning (s : Scheduler J) (key : String) : Bool := s.keys.contains key

def runningCount (s : Scheduler J) : Nat := s.keys.length

/-- Accepts a job, to be attempted at once, unless its key is taken. -/
def submit (s : Scheduler J) (now : Nat) (key : String) (job : J) : Scheduler J :=
  if s.isRunning key then s
  else { s with tasks := s.tasks ++ [⟨key, job, 0, now, s.initialDelay⟩] }

/-- The task after a failed attempt. -/
def retry (s : Scheduler J) (now : Nat) (t : Task J) : Task J :=
  { t with
    attempts := t.attempts + 1
    due := now + t.delay
    delay := min (2 * t.delay) s.maxDelay }

/-- How many attempts in a row a job is given while none of its waits takes time.
After them it is left for the next time, still due. -/
def patience : Nat := 1000000

/-- Attempts a task until it is done or has to wait. Answers the task that waits. -/
def attemptTask {σ : Type} (s : Scheduler J) (now : Nat) (attempt : Task J → σ → Bool × σ) :
    Nat → Task J → σ → Option (Task J) × σ
  | 0, t, state => (some t, state)
  | fuel + 1, t, state =>
    let (done, state) := attempt t state
    if done then (none, state)
    else
      let next := s.retry now t
      if now < next.due then (some next, state)
      else attemptTask s now attempt fuel next state

/-- Attempts tasks one after the other. Answers those that wait. -/
def attemptTasks {σ : Type} (s : Scheduler J) (now : Nat) (attempt : Task J → σ → Bool × σ) :
    List (Task J) → σ → List (Task J) × σ
  | [], state => ([], state)
  | t :: rest, state =>
    let (waiting, state) := s.attemptTask now attempt patience t state
    let (left, state) := attemptTasks s now attempt rest state
    (waiting.toList ++ left, state)

/-- Puts a task behind those that are due no later. -/
def insertDue (t : Task J) : List (Task J) → List (Task J)
  | [] => [t]
  | u :: rest => if t.due < u.due then t :: u :: rest else u :: insertDue t rest

/-- Tasks by the time they are due at; of two due together the one that waits
longer is first. -/
def byDue (tasks : List (Task J)) : List (Task J) :=
  tasks.foldl (fun acc t => insertDue t acc) []

/-- The key of a job that is done is free again. -/
def release (s : Scheduler J) (key : String) : Scheduler J :=
  { s with finished := s.finished.erase key }

/-- Attempts the jobs that are due. Nothing else happens meanwhile, so that a job which
is done has given its key back when the next thing happens. -/
def wake {σ : Type} (s : Scheduler J) (now : Nat) (attempt : Task J → σ → Bool × σ) (state : σ) :
    Scheduler J × σ :=
  let (left, state) :=
    s.attemptTasks now attempt (byDue (s.tasks.filter fun t => t.due ≤ now)) state
  ({ s with tasks := s.tasks.filter (fun t => now < t.due) ++ left }, state)

end Scheduler

end ChainReplica
