import ChainReplica.Proofs.Replay
import ChainReplica.Subscriber.Lifecycle

/-!
# What putting a snapshot in place asks for

To put a snapshot in place asks at most that it is published, and most of what a
subscriber does comes to that, or to building a snapshot first. Such effects are
plain (`Effect.Plain`): neither jobs nor refreshes come from them. The attempt of
a job and the end of a refresh ask for plain effects only, and so do the runs of
a batch (`Progress.replay_plain`) and its newest header (`Progress.cover_plain`).
-/

namespace ChainReplica

variable {S : Type}

/-- An effect that neither jobs nor refreshes come from. -/
def Effect.Plain : Effect S → Prop
  | .generate _ | .store .. => True
  | _ => False

namespace Subscriber

theorem put_some_plain (s : Subscriber S) (x : S) (block : Nat) :
    ∀ e ∈ (s.put (some x) block).2, e.Plain := by
  intro e he
  rw [put] at he
  split at he
  · cases he
  · dsimp only at he
    split at he
    · rw [List.mem_singleton.mp he]
      trivial
    · cases he

theorem heal_plain (s : Subscriber S) (source : Source S) (block : Nat) :
    ∀ e ∈ (s.heal source block).2.2, e.Plain := by
  intro e he
  rw [heal] at he
  split at he
  · cases he
  · split at he
    · rw [List.mem_singleton.mp he]
      trivial
    · rcases List.mem_cons.mp he with rfl | he
      · trivial
      · exact put_some_plain s _ block e he

theorem absorb_plain (s : Subscriber S) (found : Option (Record S)) :
    ∀ e ∈ (s.absorb found).2, e.Plain := by
  intro e he
  cases found with
  | none => cases he
  | some record =>
      rw [absorb] at he
      split at he
      · cases he
      · exact put_some_plain _ _ _ e he

end Subscriber

/-! ## Batches -/

namespace Progress

variable {p : Progress S} (source : Source S) (headers : Headers)

theorem put_plain (h : ∀ e ∈ p.effects, e.Plain) (x : S) (block : Nat) :
    ∀ e ∈ (p.put x block).effects, e.Plain :=
  List.forall_mem_append.mpr ⟨h, p.subscriber.put_some_plain x block⟩

theorem generate_plain (h : ∀ e ∈ p.effects, e.Plain) (block : Nat) :
    ∀ e ∈ (p.generate source block).effects, e.Plain := by
  have hasked : ∀ e ∈ p.effects ++ [Effect.generate block], e.Plain :=
    List.forall_mem_append.mpr ⟨h, List.forall_mem_singleton.mpr trivial⟩
  rw [generate]
  split
  · exact h
  · cases source block with
    | error e => exact hasked
    | ok fresh =>
        exact put_plain (p := { p with effects := p.effects ++ [.generate block] }) hasked
          fresh block

theorem keep_plain (h : ∀ e ∈ p.effects, e.Plain) (x : S) (block : Nat) :
    ∀ e ∈ (p.keep x block).effects, e.Plain := by
  rw [keep]
  split
  · exact put_plain h x block
  · exact h

theorem step_plain (h : ∀ e ∈ p.effects, e.Plain) (run : Run) :
    ∀ e ∈ (p.step source headers run).1.effects, e.Plain := by
  rcases step_cases source headers p run with ⟨-, hstep⟩ | hstep | ⟨_, next, -, -, hstep⟩ <;>
    rw [hstep]
  · exact generate_plain (p := { p with newest := max p.newest run.block }) source h run.block
  · exact h
  · exact keep_plain (p := { p with newest := max p.newest run.block }) h next run.block

theorem replay_plain (h : ∀ e ∈ p.effects, e.Plain) (runs : List Run) :
    ∀ e ∈ (p.replay source headers runs).1.effects, e.Plain :=
  replay_keeps source headers (P := fun q => ∀ e ∈ q.effects, e.Plain)
    (fun _ run hq => step_plain source headers hq run) runs h

theorem cover_plain (h : ∀ e ∈ p.effects, e.Plain) :
    ∀ e ∈ (p.cover source headers).effects, e.Plain := by
  rw [cover]
  cases headers.last? with
  | none => exact h
  | some e =>
      dsimp only
      split
      · exact h
      · exact generate_plain (p := { p with newest := max p.newest e.1 }) source h e.1

end Progress

end ChainReplica
