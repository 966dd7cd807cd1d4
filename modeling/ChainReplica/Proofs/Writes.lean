import ChainReplica.Proofs.Actions

/-!
# Nothing is held that was not written

`Wrote w r r'` says what a step from one replica to another may have changed,
if it wrote `w`: its checkpoints were there before or were written, and so was
the current snapshot, unless it simply stayed where it was - then a snapshot
that was not trusted is not trusted now.

Every action is such a step (`Subscriber.act_wrote`), with one exception: an
update that goes through makes the snapshot trusted, even if it wrote nothing.
The list is not too long either: what a run of an update writes is a checkpoint
right after it (`Progress.mem_step`).
-/

namespace ChainReplica

variable {S : Type}

/-- What may have changed in a step that wrote `w`. -/
structure Wrote (w : List (Nat × S)) (r r' : Replica S) : Prop where
  entries : ∀ e ∈ r'.entries, e ∈ r.entries ∨ e ∈ w
  current : ∀ x, r'.current = some x →
    ((r'.pointer, x) ∈ r.entries ∨ (r'.pointer, x) ∈ w)
      ∨ (r.current = some x ∧ r'.pointer = r.pointer ∧ (r.invalid = true → r'.invalid = true))

namespace Wrote

variable {r r' r'' : Replica S} {w w' : List (Nat × S)} {x : S} {block : Nat}

theorem refl (r : Replica S) : Wrote [] r r :=
  ⟨fun _ he => Or.inl he, fun _ hx => Or.inr ⟨hx, rfl, id⟩⟩

theorem trans (h : Wrote w r r') (h' : Wrote w' r' r'') : Wrote (w ++ w') r r'' := by
  have hentries : ∀ e, e ∈ r'.entries ∨ e ∈ w' → e ∈ r.entries ∨ e ∈ w ++ w' := by
    rintro e (he | he)
    · rcases h.entries e he with he | he
      · exact Or.inl he
      · exact Or.inr (List.mem_append_left _ he)
    · exact Or.inr (List.mem_append_right _ he)
  refine ⟨fun e he => hentries e (h'.entries e he), fun x hx => ?_⟩
  rcases h'.current x hx with hwritten | ⟨hx', hpointer', hinvalid'⟩
  · exact Or.inl (hentries _ hwritten)
  · rw [hpointer']
    rcases h.current x hx' with (hold | hw) | ⟨hx₀, hpointer, hinvalid⟩
    · exact Or.inl (Or.inl hold)
    · exact Or.inl (Or.inr (List.mem_append_left _ hw))
    · exact Or.inr ⟨hx₀, hpointer, fun hi => hinvalid' (hinvalid hi)⟩

theorem apply (r : Replica S) (x : S) (block : Nat) :
    Wrote [(block, x)] r (r.apply (some x) block) := by
  refine ⟨fun e he => ?_, fun y hy => ?_⟩
  · rcases (Replica.mem_apply.mp he).1 with rfl | ⟨he, -⟩
    · exact Or.inr List.mem_cons_self
    · exact Or.inl he
  · obtain rfl : x = y := Option.some.inj hy
    exact Or.inl (Or.inr List.mem_cons_self)

theorem checkpoint (r : Replica S) (x : S) (block : Nat) :
    Wrote [(block, x)] r (r.checkpoint block x) := by
  refine ⟨fun e he => ?_, fun y hy => Or.inr ⟨hy, rfl, id⟩⟩
  rcases Replica.mem_checkpoint.mp he with rfl | ⟨he, -⟩
  · exact Or.inr List.mem_cons_self
  · exact Or.inl he

theorem mono (h : Wrote w r r') (hw : ∀ e ∈ w, e ∈ w') : Wrote w' r r' :=
  ⟨fun e he => (h.entries e he).imp_right (hw e),
    fun x hx => (h.current x hx).imp_left fun hwritten => hwritten.imp_right (hw _)⟩

/-- Writing a checkpoint that is there already is writing nothing. -/
theorem of_held (h : Wrote w r r') (hw : ∀ e ∈ w, e ∈ r.entries) : Wrote [] r r' := by
  refine ⟨fun e he => Or.inl ?_, fun x hx => ?_⟩
  · exact (h.entries e he).elim (fun he => he) (hw e)
  · rcases h.current x hx with hwritten | hsame
    · exact Or.inl (Or.inl (hwritten.elim (fun he => he) (hw _)))
    · exact Or.inr hsame

theorem drop (r : Replica S) (block : Nat) : Wrote [] r (r.apply none block) :=
  ⟨fun _ he => Or.inl he, fun _ hx => nomatch hx⟩

end Wrote

/-! ## Putting a snapshot in place -/

namespace Subscriber

theorem put_wrote (s : Subscriber S) (x : S) (block : Nat) :
    Wrote (s.putWrites x block) s.replica (s.put (some x) block).1.replica := by
  rw [putWrites, put]
  split
  · exact Wrote.refl _
  · exact Wrote.apply _ _ _

theorem replica_requestRefresh (s : Subscriber S) : s.requestRefresh.1.replica = s.replica := by
  rw [requestRefresh]
  split <;> rfl

theorem put_none_wrote (s : Subscriber S) (block : Nat) :
    Wrote [] s.replica (s.put none block).1.replica := by
  rw [put]
  split
  · exact Wrote.refl _
  · split
    · rw [replica_requestRefresh]
      exact Wrote.refl _
    · exact Wrote.drop _ _

end Subscriber

/-! ## Rollbacks and restarts -/

theorem Wrote.prune {r : Replica S} {history : History S}
    (hsub : ∀ e ∈ history.entries, e ∈ r.entries) : Wrote [] r { r with history := history } :=
  ⟨fun e he => Or.inl (hsub e he), fun _ hx => Or.inr ⟨hx, rfl, id⟩⟩

namespace Replica

variable {r : Replica S} {block b : Nat} {x : S}

theorem rollback_wrote (r : Replica S) (block : Nat) : Wrote [] r (r.rollback block).2 := by
  rw [rollback]
  split <;> exact Wrote.prune fun e he => (History.mem_removeAbove.mp he).1

/-- A rollback returns to a checkpoint up to its block. -/
theorem mem_of_rollback (h : (r.rollback block).1 = .to b x) :
    (b, x) ∈ r.entries ∧ b ≤ block := by
  rw [rollback] at h
  split at h
  · cases hlatest : (r.history.removeAbove block none).2.latestUpTo block with
    | none => simp only [hlatest] at h; cases h
    | some e =>
        simp only [hlatest] at h
        cases h
        obtain ⟨hmem, hle⟩ := (History.latestUpTo_eq_some_iff.mp hlatest).1
        exact ⟨(History.mem_removeAbove.mp hmem).1, hle⟩
  · cases h

theorem restart_wrote (r : Replica S) (block : Nat) : Wrote [] r (r.restart block).2 :=
  Wrote.prune fun _ he => (History.mem_removeBelow.mp he).1

theorem restart_ne_to : (r.restart block).1 ≠ .to b x := by
  intro h
  rw [restart] at h
  dsimp only at h
  split at h <;> cases h

end Replica

namespace Subscriber

/-- The move after a pruning writes nothing, if it goes to a checkpoint that
was there before. -/
theorem rewind_wrote {r : Replica S} {s : Subscriber S} {move : Rewind S}
    (hpruned : Wrote [] r s.replica) (hmove : ∀ b x, move = .to b x → (b, x) ∈ r.entries) :
    Wrote [] r (s.rewind move).1.replica := by
  match move, hmove with
  | .keep, _ => exact hpruned
  | .clear block, _ => exact hpruned.trans (put_none_wrote s block)
  | .to block x, hmove =>
      refine (hpruned.trans (put_wrote s x block)).of_held fun e he => ?_
      rw [List.nil_append, putWrites] at he
      split at he
      · cases he
      · obtain rfl := List.mem_singleton.mp he
        exact hmove block x rfl

theorem rollback_wrote (s : Subscriber S) (block : Nat) :
    Wrote [] s.replica (s.rollback block).1.replica := by
  rw [rollback]
  split
  · exact Wrote.refl _
  · exact rewind_wrote (s.replica.rollback_wrote block) fun b x hmove =>
      (Replica.mem_of_rollback hmove).1

theorem restart_wrote (s : Subscriber S) (block : Nat) :
    Wrote [] s.replica (s.restart block).1.replica := by
  rw [restart]
  split
  · exact Wrote.refl _
  · exact rewind_wrote (s.replica.restart_wrote block) fun b x hmove =>
      absurd hmove Replica.restart_ne_to

end Subscriber

/-! ## Updates -/

namespace Progress

variable {p : Progress S}

theorem put_wrote (p : Progress S) (x : S) (block : Nat) :
    Wrote [(block, x)] p.subscriber.replica (p.put x block).subscriber.replica := by
  refine (p.subscriber.put_wrote x block).mono fun e he => ?_
  rw [Subscriber.putWrites] at he
  split at he
  · cases he
  · exact he

theorem generate_wrote (source : Source S) (p : Progress S) (block : Nat) :
    Wrote (p.generated source block) p.subscriber.replica
      (p.generate source block).subscriber.replica := by
  rw [generated, generate]
  split
  · exact Wrote.refl _
  · cases source block with
    | error e => exact Wrote.refl _
    | ok fresh => exact put_wrote _ fresh block

theorem keep_wrote (p : Progress S) (x : S) (block : Nat) :
    Wrote [(block, x)] p.subscriber.replica (p.keep x block).subscriber.replica := by
  rw [keep]
  split
  · exact put_wrote p x block
  · exact Wrote.checkpoint _ x block

theorem step_wrote (source : Source S) (headers : Headers) (p : Progress S) (run : Run) :
    Wrote (p.stepWrites source headers run) p.subscriber.replica
      (p.step source headers run).1.subscriber.replica := by
  cases hhas : p.subscriber.replica.hasSnapshot with
  | false =>
      simp only [stepWrites, step, hhas, Bool.not_false, if_true]
      exact generate_wrote source { p with newest := max p.newest run.block } run.block
  | true =>
      cases hbase : p.subscriber.replica.history.latestBefore run.block with
      | none => simpa [stepWrites, step, hhas, hbase] using Wrote.refl _
      | some base =>
          cases hfold : p.subscriber.venue.fold base.2 run.logs (headers.get? run.block) with
          | error e => simpa [stepWrites, step, hhas, hbase, hfold] using Wrote.refl _
          | ok changed =>
              cases changed with
              | none => simpa [stepWrites, step, hhas, hbase, hfold] using Wrote.refl _
              | some next =>
                  simpa [stepWrites, step, hhas, hbase, hfold] using
                    keep_wrote { p with newest := max p.newest run.block } next run.block

theorem replay_wrote (source : Source S) (headers : Headers) : ∀ (runs : List Run)
    (p : Progress S), Wrote (p.replayWrites source headers runs) p.subscriber.replica
      (p.replay source headers runs).1.subscriber.replica
  | [], p => Wrote.refl _
  | run :: rest, p => by
      have hstep := step_wrote source headers p run
      rw [replayWrites, replay]
      generalize p.step source headers run = q at hstep
      obtain ⟨q, failure⟩ := q
      cases failure with
      | some e => simpa using hstep
      | none => exact hstep.trans (replay_wrote source headers rest q)

theorem cover_wrote (source : Source S) (headers : Headers) (p : Progress S) :
    Wrote (p.coverWrites source headers) p.subscriber.replica
      (p.cover source headers).subscriber.replica := by
  rw [coverWrites, cover]
  cases headers.last? with
  | none => exact Wrote.refl _
  | some newest =>
      dsimp only
      split
      · exact Wrote.refl _
      · exact generate_wrote source { p with newest := max p.newest newest.1 } newest.1

end Progress

namespace Subscriber

variable {s : Subscriber S}

theorem accepted_of_replay {b : Batch S} {p : Progress S} (hs : s.replica.Holds)
    (hr : ¬s.Rejects b.logs b.headers)
    (hp : (Progress.start s).replay b.source b.headers (runs b.logs) = (p, none)) :
    (s.update b.source b.logs b.headers).result = .ok () := by
  have hreplay := (Progress.replay_held b.source b.headers (runs b.logs)
    (p := Progress.start s) hs).1
  rw [hp] at hreplay
  change none = (s.replayed b.logs b.headers).2 at hreplay
  rw [result_held hs, if_neg hr, ← hreplay]

/-- An update that does not go through only writes. One that does also trusts
the snapshot again; it is accepted if a snapshot was held before. -/
theorem update_wrote (s : Subscriber S) (b : Batch S) :
    Wrote (s.updateWrites b) s.replica (s.act (.update b)).replica
      ∨ (s.replica.inactive = false
        ∧ (s.replica.hasSnapshot = true →
          (s.update b.source b.logs b.headers).result = .ok ())
        ∧ ∃ r, Wrote (s.updateWrites b) s.replica r
          ∧ (s.act (.update b)).replica = r.validate) := by
  rw [updateWrites, act]
  cases ha : s.replica.inactive with
  | true =>
      rw [update, if_pos ha, if_pos (Or.inl rfl)]
      exact Or.inl (Wrote.refl _)
  | false =>
      by_cases hr : s.Rejects b.logs b.headers
      · rw [update_awake ha, if_pos hr, if_pos (Or.inr hr)]
        exact Or.inl (Wrote.refl _)
      · have hreplay : Wrote _ s.replica _ :=
          Progress.replay_wrote b.source b.headers (runs b.logs) (Progress.start s)
        have hupdate : s.update b.source b.logs b.headers = _ := update_awake ha
        rw [if_neg hr, applyBatch] at hupdate
        rw [if_neg (by simp [hr])]
        cases hp : (Progress.start s).replay b.source b.headers (runs b.logs) with
        | mk p failure =>
            rw [hp] at hreplay hupdate
            cases failure with
            | some e =>
                rw [hupdate]
                exact Or.inl (by simpa using hreplay)
            | none =>
                refine Or.inr ⟨rfl, fun h => accepted_of_replay ⟨ha, h⟩ hr hp, ?_⟩
                rw [hupdate]
                exact ⟨_, hreplay.trans (Progress.cover_wrote b.source b.headers p), rfl⟩

end Subscriber

/-! ## Everything that is listed is written -/

theorem Subscriber.mem_put {s : Subscriber S} {x : S} {block : Nat} {e : Nat × S}
    (he : e ∈ s.putWrites x block) : e ∈ (s.put (some x) block).1.replica.entries := by
  rw [putWrites] at he
  split at he
  · cases he
  · rename_i ha
    obtain rfl := List.mem_singleton.mp he
    rw [put, if_neg ha]
    exact Replica.mem_apply_self

namespace Progress

variable {p : Progress S} {source : Source S} {headers : Headers} {run : Run} {x : S}
  {block : Nat} {e : Nat × S}

theorem mem_put (ha : p.subscriber.replica.inactive = false) :
    (block, x) ∈ (p.put x block).subscriber.replica.entries :=
  Subscriber.mem_put (by simp [Subscriber.putWrites, ha])

theorem mem_keep (ha : p.subscriber.replica.inactive = false) :
    (block, x) ∈ (p.keep x block).subscriber.replica.entries := by
  rw [keep]
  split
  · exact mem_put ha
  · exact Replica.mem_checkpoint.mpr (Or.inl rfl)

theorem mem_generate (ha : p.subscriber.replica.inactive = false)
    (he : e ∈ p.generated source block) :
    e ∈ (p.generate source block).subscriber.replica.entries := by
  rw [generated] at he
  split at he
  · cases he
  · rename_i hasked
    rw [generate, if_neg hasked]
    cases hsource : source block with
    | error failure => rw [hsource] at he; cases he
    | ok fresh =>
        rw [hsource] at he
        obtain rfl := List.mem_singleton.mp he
        exact mem_put ha

/-- What a run writes is a checkpoint right after it. -/
theorem mem_step (ha : p.subscriber.replica.inactive = false)
    (he : e ∈ p.stepWrites source headers run) :
    e ∈ (p.step source headers run).1.subscriber.replica.entries := by
  cases hhas : p.subscriber.replica.hasSnapshot with
  | false =>
      simp only [stepWrites, step, hhas, Bool.not_false, if_true] at he ⊢
      exact mem_generate ha he
  | true =>
      cases hbase : p.subscriber.replica.history.latestBefore run.block with
      | none => simp [stepWrites, hhas, hbase] at he
      | some base =>
          cases hfold : p.subscriber.venue.fold base.2 run.logs (headers.get? run.block) with
          | error failure => simp [stepWrites, hhas, hbase, hfold] at he
          | ok changed =>
              cases changed with
              | none => simp [stepWrites, hhas, hbase, hfold] at he
              | some next =>
                  obtain rfl : e = (run.block, next) := by
                    simpa [stepWrites, hhas, hbase, hfold] using he
                  simp only [step, hhas, hbase, hfold, Bool.not_true, Bool.false_eq_true, if_false]
                  exact mem_keep ha

end Progress

/-! ## Actions -/

namespace Subscriber

theorem invalidate_wrote (s : Subscriber S) :
    Wrote [] s.replica s.invalidate.replica := by
  rw [invalidate]
  split
  · exact Wrote.refl _
  · exact ⟨fun _ he => Or.inl he, fun _ hx => Or.inr ⟨hx, rfl, fun _ => rfl⟩⟩

theorem heal_wrote (s : Subscriber S) (source : Source S) (block : Nat) :
    Wrote (s.writes (.heal source block)) s.replica (s.act (.heal source block)).replica := by
  rw [writes, act, heal]
  split
  · exact Wrote.refl _
  · rw [buildWrites]
    cases source block with
    | error e => exact Wrote.refl _
    | ok fresh => exact put_wrote s fresh block

theorem absorb_wrote (s : Subscriber S) (found : Option (Record S)) :
    Wrote (s.writes (.absorb found)) s.replica (s.act (.absorb found)).replica := by
  cases found with
  | none => exact Wrote.refl _
  | some record =>
      -- Whether the snapshot outranks the record does not depend on the waiting.
      change Wrote (if s.outranks record then [] else s.putWrites record.snapshot record.block)
        s.replica (if s.outranks record then ({ s with refreshing := false }, [])
          else { s with refreshing := false }.put (some record.snapshot) record.block).1.replica
      split
      · exact Wrote.refl _
      · exact put_wrote { s with refreshing := false } record.snapshot record.block

theorem build_wrote (s : Subscriber S) (world : Surroundings S) (block : Nat) (announced : Bool) :
    Wrote (s.buildWrites world.source block) s.replica
      (s.build world block announced).subscriber.replica := by
  rw [buildWrites, build]
  cases world.source block with
  | error e => exact Wrote.refl _
  | ok fresh => exact put_wrote s fresh block

theorem establish_wrote (s : Subscriber S) (world : Surroundings S) (block : Nat)
    (start : Start S) :
    Wrote (s.writes (.establish world block start)) s.replica
      (s.act (.establish world block start)).replica := by
  cases start with
  | supplied x => exact put_wrote s x block
  | fresh => exact build_wrote s world block false
  | usual =>
      rw [writes, act, establishWrites, establish]
      split
      · cases world.published with
        | none => exact build_wrote s world block true
        | some record => exact put_wrote s record.snapshot record.block
      · exact build_wrote s world block false

/-- Whether an action is an update that a subscriber accepts. -/
def Accepts (s : Subscriber S) : Action S → Prop
  | .update b =>
    s.replica.inactive = false ∧ (s.update b.source b.logs b.headers).result = .ok ()
  | _ => False

/-- What an action may change: only by writing, but for an update that makes
the snapshot trusted again. -/
theorem act_wrote (s : Subscriber S) (a : Action S) :
    Wrote (s.writes a) s.replica (s.act a).replica
      ∨ ((s.replica.hasSnapshot = true → s.Accepts a)
        ∧ ∃ r, Wrote (s.writes a) s.replica r ∧ (s.act a).replica = r.validate) := by
  cases a with
  | establish world block start => exact Or.inl (establish_wrote s world block start)
  | update b =>
      rcases update_wrote s b with hwrote | ⟨ha, hresult, hvalid⟩
      · exact Or.inl hwrote
      · exact Or.inr ⟨fun h => ⟨ha, hresult h⟩, hvalid⟩
  | absorb found => exact Or.inl (absorb_wrote s found)
  | heal source block => exact Or.inl (heal_wrote s source block)
  | put snapshot block =>
      cases snapshot with
      | none => exact Or.inl (put_none_wrote s block)
      | some x => exact Or.inl (put_wrote s x block)
  | rollback block => exact Or.inl (rollback_wrote s block)
  | restart block => exact Or.inl (restart_wrote s block)
  | invalidate => exact Or.inl (invalidate_wrote s)
  | inactivate =>
      exact Or.inl ⟨fun _ he => Or.inl he, fun _ hx => Or.inr ⟨hx, rfl, fun hi => hi⟩⟩

end Subscriber

end ChainReplica
