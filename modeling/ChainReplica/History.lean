import ChainReplica.BlockMap

/-!
# Past snapshots by block

A `History` remembers the snapshots a subscriber held, one per block. New logs
are folded onto the newest checkpoint that is older than their block, which
makes a second delivery of a block harmless, and a reorganization rewinds to a
checkpoint instead of building a snapshot from scratch.

Checkpoints more than `retention` blocks behind an anchor are dropped by
`prune`. The operations that drop checkpoints answer how many they dropped.
-/

namespace ChainReplica

/-- Checkpoints by block, and how far behind an anchor they are kept. -/
structure History (S : Type) where
  checkpoints : BlockMap S
  retention : Nat

namespace History

variable {S : Type}

def new (retention : Nat) : History S := ⟨.empty, retention⟩

def insert (h : History S) (block : Nat) (snapshot : S) : History S :=
  { h with checkpoints := h.checkpoints.insert block snapshot }

def get? (h : History S) (block : Nat) : Option S := h.checkpoints.get? block

def contains (h : History S) (block : Nat) : Bool := h.checkpoints.contains block

/-- The newest checkpoint of a block strictly before `block`. -/
def latestBefore (h : History S) (block : Nat) : Option (Nat × S) :=
  h.checkpoints.newest? fun b => b < block

/-- The newest checkpoint of a block up to and including `block`. -/
def latestUpTo (h : History S) (block : Nat) : Option (Nat × S) :=
  h.checkpoints.newest? fun b => b ≤ block

/-- Keeps the checkpoints whose block `keep` accepts, and counts the others. -/
def retain (h : History S) (keep : Nat → Bool) : Nat × History S :=
  let kept := h.checkpoints.filter keep
  (h.checkpoints.size - kept.size, { h with checkpoints := kept })

/-- Drops the checkpoints of blocks before `block`. -/
def removeBelow (h : History S) (block : Nat) : Nat × History S :=
  h.retain fun b => block ≤ b

/-- Drops the checkpoints of blocks after `block`, except that of block `keep`. -/
def removeAbove (h : History S) (block : Nat) (keep : Option Nat) : Nat × History S :=
  h.retain fun b => b ≤ block || keep == some b

/-- Drops the checkpoints more than the retention window behind `anchor`. -/
def prune (h : History S) (anchor : Nat) : Nat × History S :=
  h.removeBelow (anchor - h.retention)

def blocks (h : History S) : List Nat := h.checkpoints.blocks

def size (h : History S) : Nat := h.checkpoints.size

def isEmpty (h : History S) : Bool := h.checkpoints.isEmpty

end History

end ChainReplica
