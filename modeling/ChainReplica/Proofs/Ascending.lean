import ChainReplica.Proofs.Replay

/-!
# Batches of ever newer blocks

Blocks that come in strictly ascending order, every one newer than the pointer,
are all folded onto the current snapshot: its own checkpoint is the newest one
(`Topped`), so it is the base of whatever comes next. A run of such a block
either fails, or changes nothing, or writes the next snapshot (`Topped.take`).

A property of the replica that such writes preserve is therefore preserved by
every sequence of updates (`Topped.updateAll`).
-/

namespace ChainReplica

variable {S : Type}

/-- What an update is given: logs, headers, and what a snapshot from scratch
would be. -/
structure Batch (S : Type) where
  source : Source S
  logs : List Log
  headers : Headers

/-- The blocks of the runs of batches, in order. -/
def blocksOf (batches : List (Batch S)) : List Nat :=
  batches.flatMap fun b => (runs b.logs).map (·.block)

def Subscriber.updateAll (s : Subscriber S) : List (Batch S) → Subscriber S
  | [] => s
  | b :: rest => (s.update b.source b.logs b.headers).subscriber.updateAll rest

theorem blocksOf_cons (b : Batch S) (rest : List (Batch S)) :
    blocksOf (b :: rest) = (runs b.logs).map (·.block) ++ blocksOf rest := rfl

/-! ## The newest checkpoint is the current snapshot -/

/-- Awake, trusted, and with the current snapshot as newest checkpoint. -/
structure Replica.Topped (r : Replica S) : Prop where
  awake : r.inactive = false
  valid : r.invalid = false
  top : ∃ x, r.current = some x ∧ (r.pointer, x) ∈ r.entries
  below : ∀ e ∈ r.entries, e.1 ≤ r.pointer

namespace Replica.Topped

variable {r r' : Replica S} {venue : Venue S} {headers : Headers} {x : S} {n : Nat}

theorem holds (h : r.Topped) : r.Holds := by
  obtain ⟨x, hx, -⟩ := h.top
  exact ⟨h.awake, Replica.hasSnapshot_iff.mpr ⟨x, hx⟩⟩

theorem mem_pointer (h : r.Topped) (hx : r.current = some x) : (r.pointer, x) ∈ r.entries := by
  obtain ⟨y, hy, hmem⟩ := h.top
  obtain rfl : x = y := Option.some.inj (hx.symm.trans hy)
  exact hmem

theorem of_apply (ha : r.inactive = false) (hn : ∀ e ∈ r.entries, e.1 ≤ n) :
    (r.apply (some x) n).Topped := by
  refine ⟨ha, rfl, ⟨x, rfl, Replica.mem_apply_self⟩, fun e he => ?_⟩
  rcases (Replica.mem_apply.mp he).1 with rfl | ⟨he, -⟩
  · exact Nat.le_refl n
  · exact hn e he

theorem apply (h : r.Topped) (hn : r.pointer < n) : (r.apply (some x) n).Topped :=
  of_apply h.awake fun e he => Nat.le_of_lt (Nat.lt_of_le_of_lt (h.below e he) hn)

/-- The base of a newer block is the current snapshot. -/
theorem latestBefore (h : r.Topped) (hx : r.current = some x) (hn : r.pointer < n) :
    r.history.latestBefore n = some (r.pointer, x) :=
  History.latestBefore_eq_some_iff.mpr
    ⟨⟨h.mem_pointer hx, hn⟩, fun e he _ => h.below e he⟩

theorem take {run : Run} (h : r.Topped) (hx : r.current = some x)
    (hn : r.pointer < run.block) :
    r.take venue headers run =
      (venue.fold x run.logs (headers.get? run.block)).map fun changed =>
        match changed with
        | none => r
        | some next => r.apply (some next) run.block := by
  have hkeep : ∀ next : S, r.keep next run.block = r.apply (some next) run.block :=
    fun next => if_pos hn
  rw [Replica.take_of_base (h.latestBefore hx hn)]
  cases venue.fold x run.logs (headers.get? run.block) with
  | error e => rfl
  | ok changed =>
      cases changed with
      | none => rfl
      | some next => exact congrArg Except.ok (hkeep next)

theorem take_cases {run : Run} (h : r.Topped) (hn : r.pointer < run.block)
    (ht : r.take venue headers run = .ok r') :
    r' = r ∨ ∃ next, r' = r.apply (some next) run.block := by
  rcases Replica.take_cases ht with rfl | ⟨next, rfl⟩
  · exact Or.inl rfl
  · exact Or.inr ⟨next, by rw [Replica.keep, if_pos hn]⟩

theorem of_take {run : Run} (h : r.Topped) (hn : r.pointer < run.block)
    (ht : r.take venue headers run = .ok r') : r'.Topped := by
  rcases h.take_cases hn ht with rfl | ⟨next, rfl⟩
  · exact h
  · exact h.apply hn

end Replica.Topped

/-! ## What every write preserves -/

/-- A property of replicas that writes of newer blocks preserve, if these are
among the blocks that are allowed. -/
def Stable (P : Replica S → Prop) (allowed : Nat → Prop) : Prop :=
  ∀ r x n, r.Topped → P r → r.pointer < n → allowed n → P (r.apply (some x) n)

namespace Replica.Topped

variable {P : Replica S → Prop} {allowed : Nat → Prop}

/-- Runs of newer blocks, up to a failure or to the end. The pointer stays
behind every block that comes later. -/
theorem replay {venue : Venue S} {headers : Headers} (hP : Stable P allowed) :
    ∀ {runs : List Run} {r : Replica S} {later : List Nat}, r.Topped → P r →
      (∀ n ∈ runs.map (·.block) ++ later, r.pointer < n ∧ allowed n) →
      (runs.map (·.block) ++ later).Pairwise (· < ·) →
      let result := (r.replay venue headers runs).1
      (result.Topped ∧ P result) ∧ ∀ n ∈ later, result.pointer < n ∧ allowed n
  | [], r, later, h, hr, hlater, _ => ⟨⟨h, hr⟩, hlater⟩
  | run :: rest, r, later, h, hr, hblocks, hsorted => by
      obtain ⟨hfirst, hrest⟩ := List.pairwise_cons.1 hsorted
      obtain ⟨hpointer, hallowed⟩ := hblocks run.block List.mem_cons_self
      have hnewer : ∀ n ∈ rest.map (·.block) ++ later, r.pointer < n ∧ allowed n :=
        fun n hn => hblocks n (List.mem_cons_of_mem _ hn)
      simp only [Replica.replay]
      cases ht : r.take venue headers run with
      | error e =>
          exact ⟨⟨h, hr⟩, fun n hn => hnewer n (List.mem_append_right _ hn)⟩
      | ok r' =>
          rcases h.take_cases hpointer ht with rfl | ⟨next, rfl⟩
          · exact replay hP h hr hnewer hrest
          · exact replay hP (h.apply hpointer) (hP r next run.block h hr hpointer hallowed)
              (fun n hn => ⟨hfirst n hn, (hnewer n hn).2⟩) hrest

theorem replay_newer {later : List Nat} {runs : List Run} {r : Replica S} (h : r.Topped)
    (headers : Headers) (venue : Venue S)
    (hblocks : ∀ n ∈ runs.map (·.block) ++ later, r.pointer < n)
    (hsorted : (runs.map (·.block) ++ later).Pairwise (· < ·)) :
    (r.replay venue headers runs).1.Topped
      ∧ ∀ n ∈ later, (r.replay venue headers runs).1.pointer < n := by
  have hP : Stable (fun _ : Replica S => True) fun _ => True := fun _ _ _ _ _ _ _ => trivial
  obtain ⟨⟨h', -⟩, hlater⟩ := replay hP h trivial (fun n hn => ⟨hblocks n hn, trivial⟩) hsorted
  exact ⟨h', fun n hn => (hlater n hn).1⟩

theorem settle {result : Replica S × Option Failure} (h : result.1.Topped) :
    Replica.settle result = result.1 := by
  obtain ⟨r, failure⟩ := result
  cases failure with
  | some e => rfl
  | none =>
      change r.validate = r
      rw [Replica.validate, ← h.valid]

/-- Updates with newer blocks, whether they are rejected, fail or go through. -/
theorem updateAll (hP : Stable P allowed) :
    ∀ {batches : List (Batch S)} {s : Subscriber S}, s.replica.Topped → P s.replica →
      (∀ n ∈ blocksOf batches, s.replica.pointer < n ∧ allowed n) →
      (blocksOf batches).Pairwise (· < ·) →
      let t := s.updateAll batches
      (t.venue = s.venue ∧ t.settings = s.settings) ∧ t.replica.Topped ∧ P t.replica
  | [], s, h, hs, _, _ => ⟨⟨rfl, rfl⟩, h, hs⟩
  | b :: rest, s, h, hs, hblocks, hsorted => by
      rw [blocksOf_cons] at hblocks hsorted
      rw [Subscriber.updateAll, Subscriber.update_held h.holds]
      split
      · exact updateAll hP h hs (fun n hn => hblocks n (List.mem_append_right _ hn))
          (List.pairwise_append.1 hsorted).2.1
      · obtain ⟨⟨h', hs'⟩, hlater⟩ := replay hP h hs hblocks hsorted
        change (s.replayed b.logs b.headers).1.Topped at h'
        rw [settle h']
        exact updateAll hP h' hs' hlater (List.pairwise_append.1 hsorted).2.1

end Replica.Topped

end ChainReplica
