import ChainReplica.Proofs.Asking

/-!
# Updates without a snapshot

What an update does to a subscriber that is awake and holds nothing
(`Subscriber.update_bare`): it finds a first snapshot, or it leaves everything as
it was. A master then asks for a job at the newest of the block it stands at and
the blocks that the batch tells of. Of a row of requests only the first counts
(`requested`).
-/

namespace ChainReplica

variable {S : Type}

/-! ## The blocks of a batch -/

/-- The blocks that a batch tells of: those of its runs and of its headers. -/
def delivered (logs : List Log) (headers : Headers) : List Nat :=
  (runs logs).map (·.block) ++ headers.blocks

/-- The newest of a block and others. -/
def newestOf (block : Nat) (blocks : List Nat) : Nat := blocks.foldl max block

theorem newestOf_append (block : Nat) (xs ys : List Nat) :
    newestOf block (xs ++ ys) = newestOf (newestOf block xs) ys := List.foldl_append

theorem newestOf_le_iff {limit : Nat} : ∀ {blocks : List Nat} {block : Nat},
    newestOf block blocks ≤ limit ↔ block ≤ limit ∧ ∀ b ∈ blocks, b ≤ limit
  | [], _ => by simp [newestOf]
  | b :: rest, block => by
      change newestOf (max block b) rest ≤ limit ↔ _
      rw [newestOf_le_iff, Nat.max_le, List.forall_mem_cons, and_assoc]

/-- Blocks in increasing order are as new as the last of them. -/
theorem BlockMap.newestOf_blocks {α : Type} (m : BlockMap α) (block : Nat) :
    newestOf block m.blocks = m.last?.elim block fun e => max block e.1 := by
  cases hlast : m.last? with
  | none =>
      have hnil : m.entries = [] := List.getLast?_eq_none_iff.mp hlast
      simp [blocks, hnil, newestOf]
  | some e =>
      obtain ⟨before, hentries⟩ := List.getLast?_eq_some_iff.mp hlast
      have hascending := m.ascending
      rw [hentries] at hascending
      have hless : ∀ d ∈ before, d.1 < e.1 :=
        fun d hd => (List.pairwise_append.mp hascending).2.2 d hd e (List.mem_singleton_self e)
      have hbefore : newestOf block (before.map (·.1)) ≤ max block e.1 := by
        refine newestOf_le_iff.mpr ⟨Nat.le_max_left .., fun b hb => ?_⟩
        obtain ⟨d, hd, rfl⟩ := List.mem_map.mp hb
        exact Nat.le_trans (Nat.le_of_lt (hless d hd)) (Nat.le_max_right ..)
      have hblock := (newestOf_le_iff.mp (Nat.le_refl (newestOf block (before.map (·.1))))).1
      rw [blocks, hentries, List.map_append, newestOf_append]
      change max (newestOf block (before.map (·.1))) e.1 = max block e.1
      omega

/-! ## The first request -/

/-- The block that a job is at after batches, if it was at one before them or at
none yet. A request is made at the newest block seen, and only the first one
counts. -/
def requested (pointer block : Nat) (batches : List (List Nat)) : Nat :=
  batches.foldl (fun block blocks => if 0 < block then block else newestOf pointer blocks) block

theorem requested_of_pos {pointer block : Nat} (h : 0 < block) : ∀ batches : List (List Nat),
    requested pointer block batches = block
  | [] => rfl
  | blocks :: rest => by
      change requested pointer (if 0 < block then block else _) rest = block
      rw [if_pos h, requested_of_pos h rest]

/-- The first request comes with the first batch that tells of a block, or with
the first one at all if the pointer is past the first block of the chain. -/
theorem exists_first_request {pointer : Nat} : ∀ {batches : List (List Nat)},
    0 < requested pointer 0 batches →
    ∃ before first later, batches = before ++ first :: later
      ∧ (∀ blocks ∈ before, newestOf pointer blocks = 0)
      ∧ requested pointer 0 batches = newestOf pointer first
  | [], h => nomatch h
  | blocks :: rest, h => by
      have hstep : requested pointer 0 (blocks :: rest) =
          requested pointer (newestOf pointer blocks) rest := rfl
      rcases Nat.eq_zero_or_pos (newestOf pointer blocks) with hzero | hpos
      · rw [hstep, hzero] at h
        obtain ⟨before, first, later, hrest, hbefore, hfirst⟩ := exists_first_request h
        refine ⟨blocks :: before, first, later, by rw [hrest, List.cons_append], ?_, ?_⟩
        · exact List.forall_mem_cons.mpr ⟨hzero, hbefore⟩
        · rw [hstep, hzero, hfirst]
      · refine ⟨[], blocks, rest, rfl, by simp, ?_⟩
        rw [hstep, requested_of_pos hpos]

/-- The block of the first request is new enough for the batches up to it. -/
theorem covered_iff_later {pointer : Nat} {before later : List (List Nat)} {first : List Nat}
    (hbefore : ∀ blocks ∈ before, newestOf pointer blocks = 0) :
    (∀ blocks ∈ before ++ first :: later, ∀ b ∈ blocks, b ≤ newestOf pointer first) ↔
      ∀ blocks ∈ later, ∀ b ∈ blocks, b ≤ newestOf pointer first := by
  rw [List.forall_mem_append, List.forall_mem_cons]
  constructor
  · rintro ⟨-, -, hlater⟩
    exact hlater
  · refine fun hlater => ⟨fun blocks hblocks b hb => ?_, ?_, hlater⟩
    · have hzero := (newestOf_le_iff.mp (Nat.le_of_eq (hbefore blocks hblocks))).2 b hb
      exact Nat.le_trans hzero (Nat.zero_le _)
    · exact (newestOf_le_iff.mp (Nat.le_refl _)).2

/-! ## Effects that ask for no job -/

/-- No job is asked for. -/
def AsksNoJob (effects : List (Effect S)) : Prop := ∀ block, Effect.heal block ∉ effects

theorem AsksNoJob.of_plain {effects : List (Effect S)} (h : ∀ e ∈ effects, e.Plain) :
    AsksNoJob effects := fun block hblock => h (.heal block) hblock

/-! ## A subscriber that holds nothing -/

/-- Awake, and without a snapshot. -/
def Replica.Bare (r : Replica S) : Prop := r.inactive = false ∧ r.hasSnapshot = false

theorem Replica.bare_or_holds {r : Replica S} (h : r.inactive = false) : r.Bare ∨ r.Holds := by
  cases hhas : r.hasSnapshot with
  | false => exact Or.inl ⟨h, hhas⟩
  | true => exact Or.inr ⟨h, hhas⟩

namespace Progress

variable {p : Progress S} (source : Source S) (headers : Headers)

/-- A snapshot from scratch is put in place, or nothing changes. -/
theorem generate_bare (h : p.subscriber.replica.Bare) (block : Nat) :
    (p.generate source block).newest = p.newest
      ∧ ((p.generate source block).subscriber.replica.Holds
        ∨ (p.generate source block).subscriber = p.subscriber) := by
  rw [generate]
  split
  · exact ⟨rfl, Or.inr rfl⟩
  · cases source block with
    | error e => exact ⟨rfl, Or.inr rfl⟩
    | ok fresh =>
        refine ⟨rfl, Or.inl ?_⟩
        simp [put, Subscriber.put, h.1, Replica.Holds, Replica.apply, Replica.hasSnapshot]

theorem step_bare (h : p.subscriber.replica.Bare) (run : Run) :
    (p.step source headers run).2 = none
      ∧ (p.step source headers run).1.newest = max p.newest run.block
      ∧ ((p.step source headers run).1.subscriber.replica.Holds
        ∨ (p.step source headers run).1.subscriber = p.subscriber) := by
  rw [step_of_bare source headers h.2]
  exact ⟨rfl, generate_bare (p := { p with newest := max p.newest run.block }) source h run.block⟩

/-- Runs lead to a first snapshot, or they change nothing. -/
theorem replay_bare : ∀ (runs : List Run) {p : Progress S}, p.subscriber.replica.Bare →
    let q := p.replay source headers runs
    q.1.subscriber.replica.Holds
      ∨ (q.2 = none ∧ q.1.newest = newestOf p.newest (runs.map (·.block))
        ∧ q.1.subscriber = p.subscriber)
  | [], _, _ => Or.inr ⟨rfl, rfl, rfl⟩
  | run :: rest, p, h => by
      obtain ⟨hnone, hnewest, hstep⟩ := step_bare source headers h run
      simp only [replay]
      generalize p.step source headers run = q at hnone hnewest hstep
      obtain ⟨q, failure⟩ := q
      obtain rfl : failure = none := hnone
      change q.newest = _ at hnewest
      rcases hstep with hheld | hsame
      · obtain ⟨-, -, hsub⟩ := replay_held source headers rest hheld
        refine Or.inl ?_
        change (q.replay source headers rest).1.subscriber.replica.Holds
        rw [hsub]
        exact hheld.replay
      · change q.subscriber = p.subscriber at hsame
        have hrest := replay_bare rest (p := q) (hsame ▸ h)
        rw [hnewest, hsame] at hrest
        exact hrest

theorem cover_bare (h : p.subscriber.replica.Bare) :
    (p.cover source headers).newest = newestOf p.newest headers.blocks
      ∧ ((p.cover source headers).subscriber.replica.Holds
        ∨ (p.cover source headers).subscriber = p.subscriber) := by
  rw [BlockMap.newestOf_blocks, cover]
  cases headers.last? with
  | none => exact ⟨rfl, Or.inr rfl⟩
  | some e =>
      simp only [h.2, Bool.false_eq_true, if_false]
      exact generate_bare (p := { p with newest := max p.newest e.1 }) source h e.1

end Progress

namespace Subscriber

variable {s : Subscriber S} {logs : List Log} {headers : Headers}

theorem update_holds (h : s.replica.Holds) (source : Source S) :
    (s.update source logs headers).subscriber.replica.Holds := by
  rw [update_held h]
  split
  · exact h
  · cases hreplayed : s.replayed logs headers with
    | mk r failure =>
        have hheld : r.Holds := h.of_replay hreplayed
        cases failure <;> exact hheld

/-- What an accepted batch does to a master that is awake and holds nothing: it
leads to a first snapshot, or to a job at the newest block seen. -/
theorem update_bare (h : s.replica.Bare) (hrole : s.settings.role = .master)
    (haccepts : ¬s.Rejects logs headers) (source : Source S) :
    (s.update source logs headers).subscriber.replica.Holds
      ∨ ((s.update source logs headers).subscriber = { s with replica := s.replica.validate }
        ∧ ∃ asked, AsksNoJob asked ∧ (s.update source logs headers).effects = asked ++
          if 0 < newestOf s.replica.pointer (delivered logs headers) then
            [.heal (newestOf s.replica.pointer (delivered logs headers))] else []) := by
  have hplain := Progress.replay_plain source headers (p := Progress.start s) nofun (runs logs)
  have hreplay := Progress.replay_bare source headers (runs logs) (p := Progress.start s) h
  rw [update_awake h.1, if_neg haccepts, applyBatch]
  generalize (Progress.start s).replay source headers (runs logs) = q at hplain hreplay
  obtain ⟨q, failure⟩ := q
  have hasked := AsksNoJob.of_plain (Progress.cover_plain source headers hplain)
  rcases hreplay with hheld | ⟨hnone, hnewest, hsame⟩
  · cases failure with
    | some e => exact Or.inl hheld
    | none =>
        obtain ⟨hcover, -⟩ := Progress.cover_held source headers hheld.2
        exact Or.inl (hcover ▸ hheld : (q.cover source headers).subscriber.replica.Holds)
  · obtain rfl : failure = none := hnone
    change q.subscriber = s at hsame
    change q.newest = newestOf s.replica.pointer _ at hnewest
    obtain ⟨hlast, hcover⟩ := Progress.cover_bare (p := q) source headers (hsame ▸ h)
    rw [hnewest, ← newestOf_append] at hlast
    change _ = newestOf s.replica.pointer (delivered logs headers) at hlast
    rw [hsame] at hcover
    rcases hcover with hheld | hsame
    · exact Or.inl hheld
    · have hneeds : (q.cover source headers).needsHealing =
          decide (0 < newestOf s.replica.pointer (delivered logs headers)) := by
        simp [Progress.needsHealing, hsame, h.2, hrole, hlast]
      refine Or.inr ⟨by simp only [Progress.finish, hsame], _, hasked, ?_⟩
      simp only [Progress.finish, hneeds, hlast, decide_eq_true_eq]

end Subscriber

end ChainReplica
