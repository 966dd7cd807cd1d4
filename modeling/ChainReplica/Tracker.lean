import ChainReplica.Chain.Basic

/-!
# The recent canonical chain

A `Tracker` holds the headers of the recent canonical blocks and says how a new
header links to them by its parent hash:

- a header on the tip extends the chain;
- a header on an older tracked block replaces everything after that block;
- a header that links to nothing tracked leaves the tracker alone, and the
  headers of the canonical chain decide where the two agree (`forkPoint?`).
-/

namespace ChainReplica

/-- How a header links to the tracked chain. -/
inductive Linkage where
  /-- It is the new tip. -/
  | extended
  /-- It is tracked already. -/
  | known
  /-- It replaced the blocks after the fork point, `depth` of them. -/
  | reorg (forkPoint depth : Nat)
  /-- It links to no tracked block. -/
  | unlinked (number : Nat)
  deriving DecidableEq, Repr

/-- The recent canonical headers, and how often they were replaced. -/
structure Tracker where
  headers : Headers
  depth : Nat
  reorgs : Nat

namespace Tracker

def defaultDepth : Nat := 128

/-- Nothing tracked yet. At least one header is held. -/
def new (depth : Nat) : Tracker := { headers := .empty, depth := max depth 1, reorgs := 0 }

def tip? (t : Tracker) : Option Header := t.headers.last?.map (·.2)

def oldest? (t : Tracker) : Option Nat := t.headers.first?.map (·.1)

def header? (t : Tracker) (block : Nat) : Option Header := t.headers.get? block

/-- Holds a header, and drops those more than the depth behind it. -/
def record (t : Tracker) (h : Header) : Tracker :=
  { t with headers := (t.headers.insert h.number h).filter fun b => h.number < b + t.depth }

def rewind (t : Tracker) (forkPoint : Nat) : Tracker :=
  { t with headers := t.headers.filter fun b => b ≤ forkPoint }

def reset (t : Tracker) : Tracker := { t with headers := .empty }

/-- Counts a reorganization that was found outside. -/
def noteReorg (t : Tracker) : Tracker := { t with reorgs := t.reorgs + 1 }

/-- The tracked header that a header names as its parent by number. -/
def parent? (t : Tracker) (h : Header) : Option Header :=
  if h.number = 0 then none else t.headers.get? (h.number - 1)

/-- Whether the header is tracked under its own hash. -/
def knows (t : Tracker) (h : Header) : Bool :=
  (t.headers.get? h.number).any fun known => known.hash == h.hash

/-- Takes in a new header and says how it links. -/
def observe (t : Tracker) (h : Header) : Linkage × Tracker :=
  match t.tip? with
  | none => (.extended, t.record h)
  | some tip =>
    if t.knows h then (.known, t)
    else match t.parent? h with
      | some parent =>
        if parent.hash = h.parent then
          if h.number = tip.number + 1 then (.extended, t.record h)
          else (.reorg parent.number (tip.number - parent.number),
            ((t.noteReorg).rewind parent.number).record h)
        else (.unlinked h.number, t)
      | none => (.unlinked h.number, t)

/-- The newest tracked block whose hash is canonical. -/
def forkPoint? (t : Tracker) (canonical : Headers) : Option Nat :=
  (t.headers.entries.reverse.find? fun e =>
    (canonical.get? e.1).any fun c => c.hash == e.2.hash).map (·.1)

end Tracker

end ChainReplica
