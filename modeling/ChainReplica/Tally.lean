/-!
# Counting repeated messages

Messages that come many times are counted under a key, and only the count is
shown, once a window of time has passed since the first of them. The count is
emptied when it is shown: by the next message of the key after the window, by a
flush of everything, or by a flush of what is due. A background flusher makes
the last of these when it is started, and again and again as long as the tally
is there.
-/

namespace ChainReplica

/-- The messages of a key that were not shown yet. -/
structure Pending where
  key : String
  count : Nat
  /-- When the first of them came. -/
  since : Nat
  deriving DecidableEq, Repr

/-- Counts by key, at most one each. -/
structure Tally where
  window : Nat
  pending : List Pending
  deriving DecidableEq, Repr

namespace Tally

def new (window : Nat) : Tally := ⟨window, []⟩

/-- Whether the window has passed since the first message. -/
def due (t : Tally) (now : Nat) (p : Pending) : Bool := t.window ≤ now - p.since

def find? (t : Tally) (key : String) : Option Pending := t.pending.find? fun p => p.key == key

def pendingCount (t : Tally) (key : String) : Nat := ((t.find? key).map (·.count)).getD 0

def erase (t : Tally) (key : String) : Tally :=
  { t with pending := t.pending.filter fun p => p.key != key }

/-- Counts a message. Answers the count of its key if it is shown now. -/
def record (t : Tally) (now : Nat) (key : String) : Option Nat × Tally :=
  let p := match t.find? key with
    | some p => { p with count := p.count + 1 }
    | none => ⟨key, 1, now⟩
  if t.due now p then (some p.count, t.erase key)
  else (none, { t with pending := p :: (t.erase key).pending })

def total : List Pending → Nat
  | [] => 0
  | p :: rest => p.count + total rest

/-- Takes out everything, to show it. -/
def drain (t : Tally) : List Pending × Tally := (t.pending, { t with pending := [] })

/-- Takes out what is due, to show it. -/
def drainDue (t : Tally) (now : Nat) : List Pending × Tally :=
  (t.pending.filter (t.due now), { t with pending := t.pending.filter fun p => !t.due now p })

/-- Shows everything. Answers the sum. -/
def flush (t : Tally) : Nat × Tally := (total t.drain.1, t.drain.2)

/-- Shows what is due. Answers the sum. -/
def flushDue (t : Tally) (now : Nat) : Nat × Tally :=
  (total (t.drainDue now).1, (t.drainDue now).2)

end Tally

/-! ## The background flusher -/

/-- A tally that may be given up, with a flusher that may run beside it. -/
structure Flushing where
  /-- None once it was given up. -/
  tally : Option Tally
  /-- Whether the flusher has ended; none before it was started. -/
  ended : Option Bool
  deriving DecidableEq, Repr

namespace Flushing

def new (window : Nat) : Flushing := ⟨some (.new window), none⟩

/-- Lets the flusher run once: it shows what is due, and ends when there is no
tally any more. Answers whether it has ended. -/
def tick (f : Flushing) (now : Nat) : Option Bool × Flushing :=
  match f.ended with
  | none => (none, f)
  | some _ => match f.tally with
    | some t => (some false, { f with tally := some (t.flushDue now).2 })
    | none => (some true, { f with ended := some true })

def spawn (f : Flushing) (now : Nat) : Flushing := ({ f with ended := some false }.tick now).2

/-- Gives the tally up, and lets the flusher run once. -/
def giveUp (f : Flushing) (now : Nat) : Option Bool × Flushing :=
  { f with tally := none }.tick now

end Flushing

end ChainReplica
