import Mathlib.Data.List.Basic
import ChainReplica.Proofs.Checkpoints

/-!
# Histories as sorted maps

Whatever calls were made on a history, its entries ascend, and the checkpoint of a
block is the snapshot that was inserted there last, unless a later call dropped it.
Which calls drop the checkpoint of a block is a matter of their bounds alone
(`Call.Spares`), so this is known from the list of calls (`mem_after`).

What a single operation does on such a history is said by lists: those that drop
checkpoints leave the others as they are and count the ones that are gone
(`Drops`), and the lookups find the newest one that is allowed (`Newest`).
-/

namespace ChainReplica

namespace History

variable {S : Type} {h : History S} {block : Nat} {x : S}

/-! ## Calls -/

/-- What changes a history. -/
inductive Call (S : Type) where
  | insert (block : Nat) (snapshot : S)
  | prune (anchor : Nat)
  | removeBelow (block : Nat)
  | removeAbove (block : Nat) (keep : Option Nat)

def make (h : History S) : Call S → History S
  | .insert block x => h.insert block x
  | .prune anchor => (h.prune anchor).2
  | .removeBelow bound => (h.removeBelow bound).2
  | .removeAbove bound keep => (h.removeAbove bound keep).2

def after (h : History S) (calls : List (Call S)) : History S := calls.foldl make h

/-- Whether a call leaves the checkpoint of a block as it is. -/
def Call.Spares (retention block : Nat) : Call S → Prop
  | .insert other _ => other ≠ block
  | .prune anchor => anchor - retention ≤ block
  | .removeBelow bound => bound ≤ block
  | .removeAbove bound keep => block ≤ bound ∨ keep = some block

theorem retention_make (call : Call S) : (h.make call).retention = h.retention := by
  cases call <;> rfl

theorem mem_make {call : Call S} : (block, x) ∈ (h.make call).entries ↔
    call = .insert block x ∨ ((block, x) ∈ h.entries ∧ call.Spares h.retention block) := by
  cases call with
  | insert other y =>
      refine mem_insert.trans (or_congr ?_ (and_congr_right fun _ => ?_))
      · simp only [Prod.mk.injEq, Call.insert.injEq, eq_comm]
      · exact ne_comm
  | prune anchor => simpa [make, Call.Spares] using mem_prune
  | removeBelow bound => simpa [make, Call.Spares] using mem_removeBelow
  | removeAbove bound keep => simpa [make, Call.Spares] using mem_removeAbove

/-- An entry was inserted by one of the calls, or it was there before, and all calls
since then have spared it. -/
theorem mem_after : ∀ {calls : List (Call S)} {h : History S},
    (block, x) ∈ (h.after calls).entries ↔
      (∃ earlier later, calls = earlier ++ .insert block x :: later
        ∧ ∀ call ∈ later, call.Spares h.retention block)
      ∨ ((block, x) ∈ h.entries ∧ ∀ call ∈ calls, call.Spares h.retention block)
  | [], h => by simp [after]
  | call :: rest, h => by
      change (block, x) ∈ ((h.make call).after rest).entries ↔ _
      rw [mem_after, mem_make, retention_make, List.forall_mem_cons]
      -- The insertion is one of the later calls, or this one, or came before all of them.
      constructor
      · rintro (⟨earlier, later, rfl, hspared⟩ | ⟨rfl | ⟨hmem, hcall⟩, hspared⟩)
        · exact Or.inl ⟨call :: earlier, later, rfl, hspared⟩
        · exact Or.inl ⟨[], rest, rfl, hspared⟩
        · exact Or.inr ⟨hmem, hcall, hspared⟩
      · rintro (⟨_ | ⟨_, earlier⟩, later, hcalls, hspared⟩ | ⟨hmem, hcall, hspared⟩)
        · obtain ⟨rfl, rfl⟩ := List.cons.inj hcalls
          exact Or.inr ⟨Or.inl rfl, hspared⟩
        · obtain ⟨rfl, rfl⟩ := List.cons.inj hcalls
          exact Or.inl ⟨earlier, later, rfl, hspared⟩
        · exact Or.inr ⟨Or.inr ⟨hmem, hcall⟩, hspared⟩

theorem retention_after : ∀ (calls : List (Call S)) (h : History S),
    (h.after calls).retention = h.retention
  | [], _ => rfl
  | call :: rest, h => (retention_after rest (h.make call)).trans (retention_make call)

/-! ## Dropping checkpoints -/

/-- The checkpoints of these blocks are left, and the others are dropped and counted. -/
def Drops (h : History S) (keep : Nat → Prop) [DecidablePred keep] (result : Nat × History S) :
    Prop :=
  result.2.entries = h.entries.filter (fun e => keep e.1)
    ∧ result.1 = (h.entries.filter fun e => ¬keep e.1).length
    ∧ result.2.retention = h.retention

theorem drops_retain {keep : Nat → Prop} [DecidablePred keep] {accept : Nat → Bool}
    (haccept : ∀ n, accept n = true ↔ keep n) (h : History S) :
    Drops h keep (h.retain accept) := by
  have hkeep : accept = fun n => decide (keep n) := by
    funext n
    rw [Bool.eq_iff_iff, haccept, decide_eq_true_iff]
  subst hkeep
  refine ⟨rfl, ?_, rfl⟩
  change h.entries.length - (h.entries.filter fun e => keep e.1).length = _
  simp only [decide_not]
  exact Nat.sub_eq_of_eq_add' (h.entries.length_eq_length_filter_add fun e => decide (keep e.1))

/-! ## Lookups -/

/-- An entry with the greatest block that is allowed, or none if there is no such entry. -/
def Newest (h : History S) (allowed : Nat → Prop) : Option (Nat × S) → Prop
  | some e => e ∈ h.entries ∧ allowed e.1 ∧ ∀ e' ∈ h.entries, allowed e'.1 → e'.1 ≤ e.1
  | none => ∀ e ∈ h.entries, ¬allowed e.1

theorem newest_newest? {allowed : Nat → Prop} {accept : Nat → Bool}
    (haccept : ∀ n, accept n = true ↔ allowed n) (h : History S) :
    Newest h allowed (h.checkpoints.newest? accept) := by
  cases hfound : h.checkpoints.newest? accept with
  | none =>
      intro e he
      rw [← haccept, BlockMap.newest?_eq_none_iff.mp hfound e he]
      decide
  | some e =>
      obtain ⟨⟨hmem, hallowed⟩, hmax⟩ := BlockMap.newest?_eq_some_iff.mp hfound
      exact ⟨hmem, (haccept _).mp hallowed, fun e' he' h' => hmax e' he' ((haccept _).mpr h')⟩

/-- A history is a sorted map: after any calls, its entries are the snapshots inserted
last that no later call dropped, and the operations count and find among these. -/
theorem sorted_map_after (retention : Nat) (calls : List (Call S)) :
    let h := (new retention : History S).after calls
    h.blocks.Pairwise (· < ·)
      ∧ (∀ block x, (block, x) ∈ h.entries ↔ ∃ earlier later,
        calls = earlier ++ .insert block x :: later
          ∧ ∀ call ∈ later, call.Spares retention block)
      ∧ (∀ anchor, Drops h (anchor - retention ≤ ·) (h.prune anchor))
      ∧ (∀ bound, Drops h (bound ≤ ·) (h.removeBelow bound))
      ∧ (∀ bound keep, Drops h (fun n => n ≤ bound ∨ keep = some n) (h.removeAbove bound keep))
      ∧ ∀ block, Newest h (· < block) (h.latestBefore block)
        ∧ Newest h (· ≤ block) (h.latestUpTo block) := by
  intro h
  have hretention : h.retention = retention := retention_after calls (new retention)
  refine ⟨List.pairwise_map.mpr h.checkpoints.ascending, ?_, ?_, ?_, ?_, ?_⟩
  · intro block x
    refine mem_after.trans (or_iff_left ?_)
    rintro ⟨hmem, -⟩
    cases hmem
  · intro anchor
    rw [← hretention]
    exact drops_retain (fun n => decide_eq_true_iff) h
  · intro bound
    exact drops_retain (fun n => decide_eq_true_iff) h
  · intro bound keep
    exact drops_retain (fun n => by simp) h
  · intro block
    exact ⟨newest_newest? (fun n => decide_eq_true_iff) h,
      newest_newest? (fun n => decide_eq_true_iff) h⟩

/-- A checkpoint that is inserted again, kept above a bound, and pruned last. -/
example : ((new 5 : History String).after [.insert 90 "a", .insert 100 "b", .insert 90 "c",
      .insert 97 "d", .removeAbove 95 (some 100)]).entries = [(90, "c"), (100, "b")]
    ∧ ((new 5 : History String).after [.insert 0 "a", .insert 90 "c", .insert 100 "b", .prune 4,
      .prune 96]).entries = [(100, "b")] := by
  decide

end History

end ChainReplica
