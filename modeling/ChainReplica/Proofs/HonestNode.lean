import ChainReplica.Proofs.FromScratch
import ChainReplica.Proofs.TrackedChain

/-!
# Nodes that answer from a chain

A node may fail any request, at any time. What it does answer up to its head is
the chain's (`Node.Serves`), and its head never goes back. How many requests have
failed is counted, so that a run can be told to be without failures.

Requests that are made of several end like a single one (`Gauge.Ends`): with what
the chain has, or with another failure counted.
-/

namespace ChainReplica

variable {σ α : Type}

/-- What is known of the states of a node: how far it shows the chain, and how many
requests have failed. -/
structure Gauge (σ : Type) where
  head : σ → Nat
  faults : σ → Nat

namespace Gauge

variable {m : Gauge σ} {s s' s'' : σ}

/-- Neither the head nor the count goes back. -/
def Keeps (m : Gauge σ) (s s' : σ) : Prop := m.head s ≤ m.head s' ∧ m.faults s ≤ m.faults s'

/-- A request failed. -/
def Fails (m : Gauge σ) (s s' : σ) : Prop := m.head s ≤ m.head s' ∧ m.faults s < m.faults s'

/-- A request was answered as it should be, or failed. -/
def Ends (m : Gauge σ) (s : σ) (right : α → Prop) : Except Failure α × σ → Prop
  | (.ok x, s') => m.Keeps s s' ∧ right x
  | (.error _, s') => m.Fails s s'

theorem Keeps.refl (s : σ) : m.Keeps s s := ⟨Nat.le_refl _, Nat.le_refl _⟩

theorem Keeps.trans (h : m.Keeps s s') (h' : m.Keeps s' s'') : m.Keeps s s'' :=
  ⟨Nat.le_trans h.1 h'.1, Nat.le_trans h.2 h'.2⟩

theorem Keeps.then_fails (h : m.Keeps s s') (h' : m.Fails s' s'') : m.Fails s s'' :=
  ⟨Nat.le_trans h.1 h'.1, Nat.lt_of_le_of_lt h.2 h'.2⟩

theorem Fails.keeps (h : m.Fails s s') : m.Keeps s s' := ⟨h.1, Nat.le_of_lt h.2⟩

theorem Fails.faults_ne (h : m.Fails s s') : m.faults s' ≠ m.faults s := Nat.ne_of_gt h.2

end Gauge

/-- What a node answers up to its head is the chain's. The newest block that it
names is one that it has had in the meantime. -/
structure Node.Serves (node : Node σ) (c : Chain) (m : Gauge σ) : Prop where
  latest : ∀ s, match node.latest s with
    | (some n, s') => m.Keeps s s' ∧ m.head s ≤ n ∧ n ≤ m.head s'
    | (none, s') => m.Fails s s'
  header : ∀ n s, n ≤ m.head s → match node.header n s with
    | (.found h, s') => m.Keeps s s' ∧ h = c.header n
    | (_, s') => m.Fails s s'
  logs : ∀ f s, f.last ≤ m.head s → match node.logs f s with
    | (some logs, s') =>
      m.Keeps s s' ∧ logs = (c.logsFrom f.first (f.last + 1 - f.first)).filter f.selects
    | (none, s') => m.Fails s s'

theorem Chain.values_headersFrom (c : Chain) (first count : Nat) :
    (c.headersFrom first count).values = (List.range' first count).map c.header := by
  have hget : ∀ n, (c.headersFrom first count).get? n =
      if n ∈ List.range' first count then some (c.header n) else none := fun n =>
    BlockMap.get?_ofList
  have hblocks : (c.headersFrom first count).blocks = List.range' first count := by
    refine BlockMap.blocks_eq_range' fun n => ?_
    rw [BlockMap.mem_blocks, hget, ← List.mem_range'_1]
    split <;> simp [*]
  rw [← hblocks, BlockMap.values, BlockMap.blocks, List.map_map]
  refine List.map_congr_left fun e he => ?_
  have hentry : (c.headersFrom first count).get? e.1 = some e.2 :=
    BlockMap.get?_eq_some_iff.mpr he
  rw [hget] at hentry
  split at hentry
  · exact (Option.some.inj hentry).symm
  · cases hentry

namespace Node.Serves

variable {node : Node σ} {c : Chain} {m : Gauge σ} {s : σ}

theorem fetchLatest (hnode : node.Serves c m) (s : σ) :
    match node.fetchLatest s with
    | (.ok latest, s') => m.Keeps s s' ∧ (node.latest s).1 = some latest
      ∧ m.head s ≤ latest ∧ latest ≤ m.head s'
    | (.error _, s') => m.Fails s s' := by
  have hlatest := hnode.latest s
  rw [Node.fetchLatest]
  generalize node.latest s = answer at hlatest ⊢
  obtain ⟨_ | latest, s'⟩ := answer
  · exact hlatest
  · exact ⟨hlatest.1, rfl, hlatest.2⟩

theorem fetchHeader (hnode : node.Serves c m) {n : Nat} (hn : n ≤ m.head s) :
    m.Ends s (· = c.header n) (node.fetchHeader n s) := by
  have hheader := hnode.header n s hn
  rw [Node.fetchHeader]
  generalize node.header n s = answer at hheader ⊢
  obtain ⟨_ | _ | h, s'⟩ := answer
  · exact hheader
  · exact hheader
  · exact hheader

theorem fetchRange (hnode : node.Serves c m) {count : Nat} : ∀ {first : Nat} {s : σ},
    (∀ n ∈ List.range' first count, n ≤ m.head s) →
    m.Ends s (· = (List.range' first count).map c.header) (node.fetchRange first count s) := by
  induction count with
  | zero => exact fun _ => ⟨.refl _, rfl⟩
  | succ count ih =>
      intro first s hshown
      rw [List.range'_succ, List.forall_mem_cons] at hshown
      have hfirst := hnode.fetchHeader hshown.1
      rw [Node.fetchRange]
      generalize node.fetchHeader first s = answer at hfirst ⊢
      obtain ⟨e | h, s'⟩ := answer
      · exact hfirst
      · obtain ⟨hkeeps, rfl⟩ := hfirst
        have hrest := @ih (first + 1) s' fun n hn => Nat.le_trans (hshown.2 n hn) hkeeps.1
        dsimp only
        generalize node.fetchRange (first + 1) count s' = answer at hrest ⊢
        obtain ⟨e | hs, s''⟩ := answer
        · exact hkeeps.then_fails hrest
        · obtain ⟨hkeeps', rfl⟩ := hrest
          exact ⟨hkeeps.trans hkeeps', rfl⟩

theorem fetchHeaders (hnode : node.Serves c m) (first : Nat) {last : Nat}
    (hlast : last ≤ m.head s) :
    m.Ends s (· = c.headersFrom first (last + 1 - first)) (node.fetchHeaders first last s) := by
  have hrange : m.Ends s (· = (List.range' first (last + 1 - first)).map c.header)
      (node.fetchRange first (last + 1 - first) s) :=
    hnode.fetchRange fun n hn => by have := List.mem_range'_1.mp hn; omega
  rw [Node.fetchHeaders]
  generalize node.fetchRange first (last + 1 - first) s = answer at hrange ⊢
  obtain ⟨e | hs, s'⟩ := answer
  · exact hrange
  · obtain ⟨hkeeps, rfl⟩ := hrange
    have hpairs : ∀ blocks : List Nat,
        blocks.zip (blocks.map c.header) = blocks.map fun n => (n, c.header n) := fun blocks => by
      have hzip := List.zip_map' (l := blocks) (f := id) (g := c.header)
      rwa [List.map_id] at hzip
    refine ⟨hkeeps, ?_⟩
    rw [List.length_map, List.length_range', hpairs]
    rfl

theorem fetchLogs (hnode : node.Serves c m) (pair : Address) (first : Nat) {last : Nat}
    (hlast : last ≤ m.head s) :
    m.Ends s (· = c.syncLogs pair first (last + 1 - first))
      (Reserves.fetchLogs node pair first last s) := by
  have hlogs := hnode.logs (Reserves.syncFilter pair first last) s hlast
  rw [Reserves.fetchLogs]
  generalize node.logs (Reserves.syncFilter pair first last) s = answer at hlogs ⊢
  obtain ⟨_ | logs, s'⟩ := answer
  · exact hlogs
  · rw [← Chain.filter_selects]
    exact hlogs

end Node.Serves

/-- The gauge of a node whose state is the number of requests so far. -/
def Gauge.counted (head : Nat → Nat) (fails : Nat → Bool) : Gauge Nat :=
  ⟨head, fun k => (List.range k).countP fails⟩

theorem Chain.serves_node (c : Chain) {head : Nat → Nat} (hhead : ∀ k, head k ≤ head (k + 1))
    (fails : Nat → Bool) : (c.node head fails).Serves c (.counted head fails) := by
  have hcount : ∀ k, (List.range (k + 1)).countP fails =
      (List.range k).countP fails + if fails k then 1 else 0 := fun k => by
    rw [List.range_succ, List.countP_append, List.countP_singleton]
  constructor
  · intro k
    cases hk : fails k <;>
      simp [node, Gauge.counted, Gauge.Keeps, Gauge.Fails, hcount, hk, hhead k]
  · intro n k hn
    change n ≤ head k at hn
    cases hk : fails k <;>
      simp [node, Gauge.counted, Gauge.Keeps, Gauge.Fails, hcount, hk, hhead k, hn]
  · intro f k _
    cases hk : fails k <;>
      simp [node, Gauge.counted, Gauge.Keeps, Gauge.Fails, hcount, hk, hhead k]

end ChainReplica
