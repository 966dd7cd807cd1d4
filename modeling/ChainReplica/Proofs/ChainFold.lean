import ChainReplica.Proofs.Runs
import ChainReplica.Venue

/-!
# The fold of a chain

A `Chain` assigns logs and a header to every block. A `ChainFold` folds it
block by block from a first snapshot on: `state n` is the snapshot after block
`n`, and `Changes n` says that the logs of block `n` changed it.

The second half is about batches that deliver a range of blocks: how such a
batch splits into runs (`runs_logsFrom_succ`), and that nothing is wrong with
it (`violations_range`).
-/

namespace ChainReplica

/-- What the fold of a venue promises: no logs, no change. -/
def Venue.Idle {S : Type} (v : Venue S) : Prop := ∀ base header, v.fold base [] header = .ok none

/-- Folding log by log keeps the promise. -/
theorem Venue.idle_ofRule {S : Type} (addresses : List Address) (rule : LogRule S)
    (codec : Codec S) : (Venue.ofRule addresses rule codec).Idle :=
  fun _ _ => rfl

/-- Logs and header of every block. The logs of a block are in it, and in the
order of their indices. -/
structure Chain where
  logs : Nat → List Log
  header : Nat → Header
  placed : ∀ n, ∀ log ∈ logs n, log.block = some n
  ordered : ∀ n, (logs n).Pairwise fun a b => a.index.getD 0 ≤ b.index.getD 0

/-- A chain that a venue folds from a first snapshot on. -/
structure ChainFold (S : Type) where
  chain : Chain
  venue : Venue S
  /-- The block of the first snapshot. -/
  origin : Nat
  first : S

namespace ChainFold

variable {S : Type} (f : ChainFold S)

def outcome (base : S) (n : Nat) : Except Failure (Option S) :=
  f.venue.fold base (f.chain.logs n) (some (f.chain.header n))

/-- The snapshot after a block. A block that changes nothing leaves it as it
was. -/
def state : Nat → S
  | 0 => f.first
  | n + 1 =>
    if n + 1 ≤ f.origin then f.first
    else match f.outcome (state n) (n + 1) with
      | .ok (some next) => next
      | .ok none => state n
      | .error _ => state n

/-- The logs of a block after the first snapshot change it. -/
def Changes (n : Nat) : Prop :=
  f.origin < n ∧ ∃ next, f.outcome (f.state (n - 1)) n = .ok (some next)

/-- No block after the first snapshot fails. -/
def Sound : Prop :=
  ∀ n, f.origin < n → ∃ changed, f.outcome (f.state (n - 1)) n = .ok changed

/-- Blocks with a snapshot of their own: the first one, and those that change. -/
def Marked (n : Nat) : Prop := n = f.origin ∨ f.Changes n

/-- The newest block up to `newest` with a snapshot of its own. -/
def NewestChange (newest n : Nat) : Prop :=
  (n ≤ newest ∧ f.Marked n) ∧ ∀ m, n < m → m ≤ newest → ¬f.Changes m

variable {f}

theorem Marked.origin_le {n : Nat} (h : f.Marked n) : f.origin ≤ n := by
  rcases h with rfl | h
  · exact Nat.le_refl _
  · exact Nat.le_of_lt h.1

theorem state_origin : f.state f.origin = f.first := by
  cases h : f.origin with
  | zero => rfl
  | succ n => rw [state, if_pos (Nat.le_of_eq h.symm)]

theorem state_succ {n : Nat} (h : f.origin ≤ n) :
    f.state (n + 1) = match f.outcome (f.state n) (n + 1) with
      | .ok (some next) => next
      | .ok none => f.state n
      | .error _ => f.state n := by
  rw [state, if_neg (by omega)]

theorem state_of_change {n : Nat} {next : S} (hn : f.origin < n)
    (h : f.outcome (f.state (n - 1)) n = .ok (some next)) : f.state n = next := by
  obtain ⟨m, rfl⟩ : ∃ m, n = m + 1 := ⟨n - 1, by omega⟩
  rw [Nat.add_sub_cancel] at h
  rw [state_succ (by omega), h]

theorem state_eq_of_unchanged {k n : Nat} (hk : f.origin ≤ k) (hkn : k ≤ n)
    (h : ∀ m, k < m → m ≤ n → ¬f.Changes m) : f.state n = f.state k := by
  induction n with
  | zero =>
      obtain rfl : k = 0 := by omega
      rfl
  | succ n ih =>
      rcases Nat.lt_or_eq_of_le hkn with hlt | rfl
      · have hsame : f.state n = f.state k :=
          ih (by omega) (fun m hm hmn => h m hm (Nat.le_succ_of_le hmn))
        have hno : ¬f.Changes (n + 1) := h (n + 1) hlt (Nat.le_refl _)
        rw [state_succ (by omega), ← hsame]
        cases hout : f.outcome (f.state n) (n + 1) with
        | error e => rfl
        | ok changed =>
            cases changed with
            | none => rfl
            | some next => exact absurd ⟨by omega, next, hout⟩ hno
      · rfl

theorem not_changes_of_nil (hidle : f.venue.Idle) {n : Nat} (h : f.chain.logs n = []) :
    ¬f.Changes n := by
  rintro ⟨-, next, hnext⟩
  rw [outcome, h, hidle] at hnext
  cases hnext

end ChainFold

/-! ## Batches of whole blocks -/

namespace Chain

variable {c : Chain}

def logsFrom (c : Chain) (first count : Nat) : List Log :=
  (List.range' first count).flatMap c.logs

def headersFrom (c : Chain) (first count : Nat) : Headers :=
  BlockMap.ofList ((List.range' first count).map fun n => (n, c.header n))

theorem logsFrom_succ (first count : Nat) :
    c.logsFrom first (count + 1) = c.logs first ++ c.logsFrom (first + 1) count := by
  simp [logsFrom, List.range'_succ]

theorem mem_logsFrom {first count : Nat} {log : Log} (h : log ∈ c.logsFrom first count) :
    ∃ n, first ≤ n ∧ n < first + count ∧ log ∈ c.logs n ∧ log.block = some n := by
  obtain ⟨n, hn, hlog⟩ := List.mem_flatMap.mp h
  have hrange := List.mem_range'_1.mp hn
  exact ⟨n, hrange.1, hrange.2, hlog, c.placed n log hlog⟩

/-- The runs of a range of blocks: one for every block that has logs. -/
theorem runs_logsFrom_succ (first count : Nat) :
    runs (c.logsFrom first (count + 1)) =
      (if c.logs first = [] then [] else [⟨first, c.logs first⟩])
        ++ runs (c.logsFrom (first + 1) count) := by
  rw [logsFrom_succ]
  split
  · rename_i hnil
    rw [hnil]
    rfl
  · rename_i hne
    refine runs_append_of_block hne (c.placed first) ?_
    intro hhead
    obtain ⟨log, hlog, hblock⟩ := Option.bind_eq_some_iff.mp hhead
    obtain ⟨n, hle, -, -, hn⟩ := mem_logsFrom (List.mem_of_mem_head? hlog)
    obtain rfl : first = n := Option.some.inj (hblock.symm.trans hn)
    omega

theorem block_of_mem_runs : ∀ {count first : Nat} {run : Run},
    run ∈ runs (c.logsFrom first count) → first ≤ run.block ∧ run.block < first + count
  | 0, _, _, h => by cases h
  | count + 1, first, run, h => by
      rw [runs_logsFrom_succ, List.mem_append] at h
      rcases h with h | h
      · split at h
        · cases h
        · obtain rfl := List.mem_singleton.mp h
          exact ⟨Nat.le_refl _, by simp⟩
      · have := block_of_mem_runs h
        omega

/-! ## Nothing is wrong with such a batch -/

theorem follows_of_mem {n : Nat} {a b : Log} (ha : a ∈ c.logs n) (hb : b ∈ c.logs n)
    (hle : a.index.getD 0 ≤ b.index.getD 0) : Follows a b := by
  refine ⟨(n, a.index.getD 0), (n, b.index.getD 0), ?_, ?_, ?_⟩
  · rw [Log.position?, c.placed n a ha, Option.map_some]
  · rw [Log.position?, c.placed n b hb, Option.map_some]
  · simp [positionBefore, hle]

theorem follows_of_lt {m n : Nat} {a b : Log} (hlt : m < n) (ha : a ∈ c.logs m)
    (hb : b ∈ c.logs n) : Follows a b := by
  refine ⟨(m, a.index.getD 0), (n, b.index.getD 0), ?_, ?_, ?_⟩
  · rw [Log.position?, c.placed m a ha, Option.map_some]
  · rw [Log.position?, c.placed n b hb, Option.map_some]
  · have hne : ¬n = m := by omega
    have hge : ¬n < m := by omega
    simp [positionBefore, hne, hge]

theorem pairwise_logsFrom (first count : Nat) : (c.logsFrom first count).Pairwise Follows := by
  rw [logsFrom, List.pairwise_flatMap]
  constructor
  · intro n _
    exact (c.ordered n).imp_of_mem fun ha hb hle => follows_of_mem ha hb hle
  · have hascending : (List.range' first count).Pairwise (· < ·) := List.pairwise_lt_range' 1
    exact hascending.imp fun hlt a ha b hb => follows_of_lt hlt ha hb

theorem get?_headersFrom {first count n : Nat} (hfirst : first ≤ n) (hlast : n < first + count) :
    (c.headersFrom first count).get? n = some (c.header n) := by
  rw [headersFrom, BlockMap.get?_ofList, if_pos (List.mem_range'_1.mpr ⟨hfirst, hlast⟩)]

/-- A range of blocks is a batch without violations. -/
theorem violations_range (first count : Nat) :
    violations (c.logsFrom first count) (c.headersFrom first count) = [] := by
  have hlogs : logViolations 0 none (c.logsFrom first count) = [] := by
    refine logViolations_eq_nil ?_ ?_ (pairwise_logsFrom first count)
    · intro log hlog
      obtain ⟨n, -, -, -, hn⟩ := mem_logsFrom hlog
      simp [Log.position?, hn]
    · rintro log - p q hp
      cases hp
  have hheaders : headerViolations (c.logsFrom first count) (c.headersFrom first count) = [] := by
    refine headerViolations_eq_nil fun run hrun => ?_
    obtain ⟨hfirst, hlast⟩ := block_of_mem_runs hrun
    exact BlockMap.contains_iff.mpr
      ⟨_, BlockMap.get?_eq_some_iff.mp (get?_headersFrom hfirst hlast)⟩
  rw [violations, hlogs, hheaders, List.append_nil]

end Chain

end ChainReplica
