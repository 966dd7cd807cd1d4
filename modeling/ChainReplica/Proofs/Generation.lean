import ChainReplica.Proofs.Publication
import ChainReplica.Proofs.Requests
import ChainReplica.Proofs.Runs
import ChainReplica.Venue.Counter

/-!
# Snapshots built from scratch

An update builds a snapshot at most once, at a block that the batch alone decides:
that of its first run, or of its newest header if there are no runs (`buildBlock?`).
What comes after that is one of two known things (`Subscriber.update_builds_once`).

If the snapshot could not be built, the refusal sticks. Everything that follows in
the batch only moves the newest block seen (`Progress.conclude_refused`), and a
master asks for a job there.

If it could, the logs of the first run are in it. The other runs are an update of
a held snapshot, and for these nothing matters of what came before but the
snapshot (`Progress.conclude_held`).
-/

namespace ChainReplica

variable {S : Type}

/-- The blocks at which snapshots were built from scratch, or should have been. -/
def built (effects : List (Effect S)) : List Nat :=
  effects.filterMap fun
    | .generate block => some block
    | _ => none

theorem built_append (xs ys : List (Effect S)) : built (xs ++ ys) = built xs ++ built ys :=
  List.filterMap_append

theorem built_stores (s : Subscriber S) (written : List (Nat × S)) :
    built (s.stores written) = [] := by
  unfold Subscriber.stores
  split
  · induction written with
    | nil => rfl
    | cons e rest ih => exact ih
  · rfl

/-- Where a snapshot is built, if none is held. -/
def buildBlock? (runs : List Run) (headers : Headers) : Option Nat :=
  (runs.head?.map (·.block)).or headers.blocks.max?

/-- Blocks in increasing order: the greatest is the last. -/
theorem BlockMap.max?_blocks {α : Type} (m : BlockMap α) :
    m.blocks.max? = m.last?.map (·.1) := by
  cases hlast : m.last? with
  | none =>
      have hnil : m.entries = [] := List.getLast?_eq_none_iff.mp hlast
      simp [blocks, hnil]
  | some e =>
      have hnewest := m.newestOf_blocks e.1
      rw [hlast] at hnewest
      have hle := newestOf_le_iff.mp (Nat.le_of_eq (hnewest.trans (Nat.max_self _)))
      refine List.max?_eq_some_iff.mpr ⟨?_, hle.2⟩
      exact List.mem_map_of_mem (List.mem_of_getLast? hlast)

namespace Progress

variable {p : Progress S} (source : Source S) (headers : Headers) {x : S} {e : Failure}
  {block : Nat}

/-! ## Building -/

theorem generate_of_ok (hnone : p.refusal = none) (hx : source block = .ok x) :
    p.generate source block = ⟨(p.subscriber.put (some x) block).1,
      p.effects ++ .generate block :: (p.subscriber.put (some x) block).2, none, p.newest⟩ := by
  simp [generate, hnone, hx, put]

theorem generate_of_error (hnone : p.refusal = none) (he : source block = .error e) :
    p.generate source block =
      ⟨p.subscriber, p.effects ++ [.generate block], some e, p.newest⟩ := by
  simp [generate, hnone, he]

theorem generate_settled (ha : p.subscriber.replica.inactive = false) (hnone : p.refusal = none) :
    (p.generate source block).subscriber.replica.hasSnapshot = true
      ∨ (p.generate source block).refusal.isSome = true := by
  cases hsource : source block with
  | ok x =>
      rw [generate_of_ok source hnone hsource]
      exact Or.inl (by simp [Subscriber.put, ha, Replica.apply, Replica.hasSnapshot])
  | error e =>
      rw [generate_of_error source hnone hsource]
      exact Or.inr rfl

theorem generate_of_refusal (hrefusal : p.refusal = some e) : p.generate source block = p := by
  simp [generate, hrefusal]

/-! ## After a refusal -/

theorem replay_refused (hrefusal : p.refusal = some e)
    (hbare : p.subscriber.replica.hasSnapshot = false) : ∀ (runs : List Run) (newest : Nat),
    ({ p with newest := newest }).replay source headers runs =
      ({ p with newest := newestOf newest (runs.map (·.block)) }, none)
  | [], _ => rfl
  | run :: rest, newest => by
      have hstep : ({ p with newest := newest }).step source headers run =
          ({ p with newest := max newest run.block }, none) := by
        rw [step_of_bare (p := { p with newest := newest }) source headers hbare]
        exact Prod.ext (generate_of_refusal source hrefusal) rfl
      simp only [replay, hstep]
      exact replay_refused hrefusal hbare rest (max newest run.block)

/-- No snapshot is built at the newest header if one is held, or was refused. -/
theorem cover_settled (h : p.subscriber.replica.hasSnapshot = true ∨ p.refusal.isSome = true) :
    p.cover source headers = { p with newest := newestOf p.newest headers.blocks } := by
  rw [BlockMap.newestOf_blocks, cover]
  cases headers.last? with
  | none => rfl
  | some last =>
      rcases h with hhas | hrefusal
      · simp only [hhas, if_true, Option.elim]
      · simp only [generate, hrefusal, if_true, ite_self, Option.elim]

theorem finish_refused (hrefusal : p.refusal = some e)
    (hbare : p.subscriber.replica.hasSnapshot = false) :
    p.finish = ⟨{ p.subscriber with replica := p.subscriber.replica.validate },
      p.effects ++ if p.subscriber.settings.role = .master ∧ 0 < p.newest
        then [.heal p.newest] else [], .error e⟩ := by
  simp [finish, needsHealing, hrefusal, hbare]

/-- The rest of the batch is passed over. -/
theorem conclude_refused (hrefusal : p.refusal = some e)
    (hbare : p.subscriber.replica.hasSnapshot = false) (runs : List Run) :
    let newest := newestOf p.newest (runs.map (·.block) ++ headers.blocks)
    p.conclude source headers runs =
      ⟨{ p.subscriber with replica := p.subscriber.replica.validate },
        p.effects ++ if p.subscriber.settings.role = .master ∧ 0 < newest
          then [.heal newest] else [], .error e⟩ := by
  intro newest
  let q : Progress S := { p with newest := newestOf p.newest (runs.map (·.block)) }
  have hreplay : p.replay source headers runs = (q, none) :=
    replay_refused source headers hrefusal hbare runs p.newest
  have hcover : q.cover source headers = { p with newest := newest } := by
    have hsettled : q.refusal.isSome = true := by rw [show q.refusal = some e from hrefusal]; rfl
    rw [cover_settled source headers (Or.inr hsettled), ← newestOf_append]
  rw [conclude, hreplay]
  change (q.cover source headers).finish = _
  rw [hcover]
  exact finish_refused hrefusal hbare

/-! ## At the first block -/

theorem cover_of_last {last : Nat × Header} (hbare : p.subscriber.replica.hasSnapshot = false)
    (hlast : headers.last? = some last) : p.cover source headers =
      ({ p with newest := max p.newest last.1 }).generate source last.1 := by
  simp only [cover, hlast, hbare, Bool.false_eq_true, if_false]

theorem cover_cover (h : p.subscriber.replica.Bare) (hnone : p.refusal = none) :
    (p.cover source headers).cover source headers = p.cover source headers := by
  cases hlast : headers.last? with
  | none => simp only [cover, hlast]
  | some last =>
      let asked : Progress S := { p with newest := max p.newest last.1 }
      have hcover : p.cover source headers = asked.generate source last.1 :=
        cover_of_last source headers h.2 hlast
      have hsettled : (asked.generate source last.1).subscriber.replica.hasSnapshot = true
          ∨ (asked.generate source last.1).refusal.isSome = true :=
        generate_settled source h.1 hnone
      have hnewest : (asked.generate source last.1).newest = max p.newest last.1 :=
        (generate_bare (p := asked) source h last.1).1
      have hsame : newestOf (asked.generate source last.1).newest headers.blocks =
          (asked.generate source last.1).newest := by
        simp [hnewest, BlockMap.newestOf_blocks, hlast]
      rw [hcover, cover_settled source headers hsettled, hsame]

theorem conclude_cons {q : Progress S} {run : Run} {rest : List Run}
    (hstep : p.step source headers run = (q, none)) :
    p.conclude source headers (run :: rest) = q.conclude source headers rest := by
  simp only [conclude, replay, hstep]

theorem conclude_nil : p.conclude source headers [] = (p.cover source headers).finish := rfl

/-- Without a snapshot, everything begins with building one. -/
theorem conclude_bare (h : p.subscriber.replica.Bare) (hnone : p.refusal = none)
    {runs : List Run} (hblock : buildBlock? runs headers = some block) :
    ∃ newest, newestOf newest (runs.tail.map (·.block) ++ headers.blocks) =
        newestOf p.newest (runs.map (·.block) ++ headers.blocks)
      ∧ p.conclude source headers runs =
        (({ p with newest := newest }).generate source block).conclude source headers
          runs.tail := by
  cases runs with
  | cons run rest =>
      -- The block of the first run is seen now, so it need not be seen again later.
      obtain rfl : run.block = block := Option.some.inj hblock
      exact ⟨max p.newest run.block, rfl,
        conclude_cons source headers (step_of_bare source headers h.2 run)⟩
  | nil =>
      have hmax : headers.blocks.max? = some block := hblock
      rw [BlockMap.max?_blocks] at hmax
      obtain ⟨last, hlast, rfl⟩ := Option.map_eq_some_iff.mp hmax
      refine ⟨max p.newest last.1, ?_, ?_⟩
      · simp [BlockMap.newestOf_blocks, hlast]
      · rw [List.tail_nil, ← cover_of_last source headers h.2 hlast, conclude_nil, conclude_nil,
          cover_cover source headers h hnone]

theorem conclude_idle {runs : List Run} (hblock : buildBlock? runs headers = none) :
    p.conclude source headers runs = p.finish := by
  obtain ⟨hruns, hmax⟩ := Option.or_eq_none_iff.mp hblock
  obtain rfl : runs = [] := List.head?_eq_none_iff.mp (Option.map_eq_none_iff.mp hruns)
  have hlast : headers.last? = none := by
    rwa [BlockMap.max?_blocks, Option.map_eq_none_iff] at hmax
  rw [conclude_nil, cover, hlast]

theorem built_finish : built p.finish.effects = built p.effects := by
  rw [finish, built_append]
  split <;> exact List.append_nil _

/-- With a snapshot held, what was asked for before does not matter to the rest. -/
theorem conclude_again (h : p.subscriber.replica.Holds) (hnone : p.refusal = none)
    (runs : List Run) (again : Source S) :
    let o := (start p.subscriber).conclude again headers runs
    p.conclude source headers runs = ⟨o.subscriber, p.effects ++ o.effects, o.result⟩ := by
  intro o
  obtain ⟨hsub, hresult⟩ := conclude_held source headers runs h hnone
  obtain ⟨hsub', hresult'⟩ := conclude_held again headers runs (p := start p.subscriber) h rfl
  have heffects := conclude_effects source headers runs h
  have heffects' := conclude_effects again headers runs (p := start p.subscriber) h
  change o.subscriber = _ at hsub'
  change o.result = _ at hresult'
  change o.effects = [] ++ _ at heffects'
  rw [hsub', heffects', hresult', List.nil_append]
  generalize p.conclude source headers runs = q at hsub hresult heffects
  obtain ⟨t, effects, result⟩ := q
  cases hsub
  cases hresult
  cases heffects
  rfl

end Progress

namespace Subscriber

variable {s : Subscriber S} {logs : List Log} {headers : Headers} {source : Source S}
  {block : Nat} {x : S} {e : Failure}

theorem update_concludes (ha : s.replica.inactive = false) (haccepts : ¬s.Rejects logs headers) :
    s.update source logs headers = (Progress.start s).conclude source headers (runs logs) := by
  rw [update_awake ha, if_neg haccepts, applyBatch_eq]

theorem update_refused (h : s.replica.Bare) (haccepts : ¬s.Rejects logs headers)
    (hblock : buildBlock? (runs logs) headers = some block) (he : source block = .error e) :
    let newest := newestOf s.replica.pointer (delivered logs headers)
    s.update source logs headers = ⟨{ s with replica := s.replica.validate },
      .generate block :: if s.settings.role = .master ∧ 0 < newest then [.heal newest] else [],
      .error e⟩ := by
  intro newest
  obtain ⟨n, hnewest, hconclude⟩ :=
    Progress.conclude_bare source headers (p := Progress.start s) h rfl hblock
  rw [update_concludes h.1 haccepts, hconclude, Progress.generate_of_error source rfl he,
    Progress.conclude_refused source headers rfl h.2]
  change newestOf n _ = newest at hnewest
  simp only [hnewest]
  rfl

theorem update_built (h : s.replica.Bare) (haccepts : ¬s.Rejects logs headers)
    (hblock : buildBlock? (runs logs) headers = some block) (hx : source block = .ok x)
    {rest : List Log} (hrest : runs rest = (runs logs).tail) (hsound : ¬s.Rejects rest headers)
    (again : Source S) :
    let first := s.put (some x) block
    let later := first.1.update again rest headers
    first.1.replica.Holds ∧ s.update source logs headers =
      ⟨later.subscriber, .generate block :: first.2 ++ later.effects, later.result⟩ := by
  intro first later
  have hfirst : first.1 = { s with replica := s.replica.apply (some x) block } := by
    simp [first, put, h.1]
  have hheld : first.1.replica.Holds := by
    rw [hfirst]
    exact ⟨h.1, rfl⟩
  -- Writing the snapshot does not touch the settings, so the policy judges alike.
  have hlater : later = (Progress.start first.1).conclude again headers (runs rest) := by
    refine update_concludes hheld.1 ?_
    rw [hfirst]
    exact hsound
  obtain ⟨n, -, hconclude⟩ :=
    Progress.conclude_bare source headers (p := Progress.start s) h rfl hblock
  refine ⟨hheld, ?_⟩
  rw [update_concludes h.1 haccepts, hconclude, Progress.generate_of_ok source rfl hx,
    Progress.conclude_again source headers hheld rfl _ again, hlater, hrest]
  rfl

/-- The runs behind the first one are a batch of their own, and not a worse one. -/
theorem exists_rest (haccepts : ¬s.Rejects logs headers) :
    ∃ rest, rest <:+ logs ∧ runs rest = (runs logs).tail ∧ ¬s.Rejects rest headers := by
  obtain ⟨front, rest, rfl, hfront, hrest⟩ := exists_cut logs 1
  refine ⟨rest, List.suffix_append front rest, hrest.trans List.drop_one, ?_⟩
  rintro ⟨hstrict, hwrong⟩
  have hsound : violations (front ++ rest) headers = [] :=
    Decidable.byContradiction fun hne => haccepts ⟨hstrict, hne⟩
  refine hwrong (violations_of_append ?_ hsound).2
  rw [hfront, hrest, List.take_append_drop]

theorem built_held (h : s.replica.Holds) : built (s.update source logs headers).effects = [] := by
  rw [effects_held h]
  split
  · rfl
  · exact built_stores _ _

theorem built_put (s : Subscriber S) (x : S) (block : Nat) :
    built (s.put (some x) block).2 = [] := by
  simp only [put]
  split
  · rfl
  · split <;> rfl

/-- An update builds a snapshot at most once, and only if it starts without one. -/
theorem update_builds_once (s : Subscriber S) (ha : s.replica.inactive = false)
    (logs : List Log) (headers : Headers) (haccepts : ¬s.Rejects logs headers)
    (source : Source S) :
    let o := s.update source logs headers
    let site := if s.replica.hasSnapshot then none else buildBlock? (runs logs) headers
    let newest := newestOf s.replica.pointer (delivered logs headers)
    built o.effects = site.toList
      ∧ (∀ block e, site = some block → source block = .error e →
        o = ⟨{ s with replica := s.replica.validate },
          .generate block :: if s.settings.role = .master ∧ 0 < newest
            then [.heal newest] else [], .error e⟩)
      ∧ ∀ block x, site = some block → source block = .ok x →
        (∃ rest, rest <:+ logs ∧ runs rest = (runs logs).tail ∧ ¬s.Rejects rest headers)
          ∧ ∀ rest, runs rest = (runs logs).tail → ¬s.Rejects rest headers →
            ∀ again : Source S,
              let first := s.put (some x) block
              let later := first.1.update again rest headers
              o = ⟨later.subscriber, .generate block :: first.2 ++ later.effects,
                later.result⟩ := by
  intro o site newest
  rcases Replica.bare_or_holds ha with hbare | hheld
  · have hsite : site = buildBlock? (runs logs) headers := if_neg (by simp [hbare.2])
    rw [hsite]
    refine ⟨?_, ?_, ?_⟩
    · cases hblock : buildBlock? (runs logs) headers with
      | none =>
          change built (s.update source logs headers).effects = []
          rw [update_concludes ha haccepts, Progress.conclude_idle source headers hblock,
            Progress.built_finish]
          rfl
      | some block =>
          change built (s.update source logs headers).effects = [block]
          cases hsource : source block with
          | error e =>
              rw [update_refused hbare haccepts hblock hsource]
              split <;> rfl
          | ok x =>
              obtain ⟨rest, -, hrest, hsound⟩ := exists_rest haccepts
              obtain ⟨hheld, hbuilt⟩ :=
                update_built hbare haccepts hblock hsource hrest hsound source
              rw [hbuilt, built_append, built_held hheld, List.append_nil]
              exact congrArg (block :: ·) (built_put s x block)
    · intro block e hblock he
      exact update_refused hbare haccepts hblock he
    · intro block x hblock hx
      refine ⟨exists_rest haccepts, ?_⟩
      intro rest hrest hsound again
      exact (update_built hbare haccepts hblock hx hrest hsound again).2
  · have hsite : site = none := if_pos hheld.2
    rw [hsite]
    refine ⟨built_held hheld, ?_, ?_⟩
    · rintro block e ⟨⟩
    · rintro block x ⟨⟩

/-- Three runs out of order. Nothing but the first one decides the block, and nothing
but the newest header the job; a snapshot built there has the later two folded on it. -/
theorem update_builds_once_counted :
    let s := new ⟨"g", "n"⟩ (Counter.venue 7) { Settings.default with shareCache := true }
    let logs : List Log :=
      [⟨7, [], [], some 6, some 0⟩, ⟨7, [], [], some 9, some 0⟩, ⟨7, [], [], some 8, some 0⟩]
    let headers : Headers := .ofList [⟨12, 12, 11, 0⟩]
    let refused := s.update (fun _ => .error (.plain .generation "down")) logs headers
    let o := s.update (fun _ => .ok ⟨10⟩) logs headers
    let first := s.put (some ⟨10⟩) 6
    let later := first.1.update (fun _ => .ok ⟨0⟩) (logs.drop 1) headers
    ¬s.Rejects logs headers
      ∧ refused = ⟨s, [.generate 6, .heal 12], .error (.plain .generation "down")⟩
      ∧ o = ⟨later.subscriber, .generate 6 :: first.2 ++ later.effects, later.result⟩
      ∧ first.2 ++ later.effects = [.store 6 ⟨10⟩, .store 9 ⟨11⟩]
      ∧ built o.effects = [6]
      ∧ o.subscriber.replica.history.blocks = [6, 8, 9]
      ∧ o.subscriber.replica.history.get? 8 = some ⟨11⟩ := by
  intro s logs headers refused o first later
  have haccepts : ¬s.Rejects logs headers := accepts_of_lenient rfl
  obtain ⟨-, hrefused, -⟩ := update_builds_once s rfl logs headers haccepts
    (fun _ => .error (.plain .generation "down"))
  obtain ⟨hbuilt, -, hok⟩ := update_builds_once s rfl logs headers haccepts (fun _ => .ok ⟨10⟩)
  obtain ⟨-, hlater⟩ := hok 6 ⟨10⟩ rfl rfl
  have ho : o = ⟨later.subscriber, .generate 6 :: first.2 ++ later.effects, later.result⟩ :=
    hlater (logs.drop 1) rfl (accepts_of_lenient rfl) (fun _ => .ok ⟨0⟩)
  exact ⟨haccepts, hrefused 6 _ rfl rfl, ho, rfl, hbuilt, rfl, rfl⟩

end Subscriber

end ChainReplica
