import ChainReplica.Proofs.Rollback
import ChainReplica.Proofs.Writes
import ChainReplica.Venue.Counter

/-!
# What may be read after a rollback

After a snapshot was marked as not trusted and rolled back to a fork point,
nothing that was established for a block after the fork point is ever read
again, whatever happens next, unless it is written again
(`Subscriber.read?_after_rollback`).

There is one exception, and it is part of the design: a slave that shares and
has no checkpoint up to the fork point keeps its snapshot, since it waits for
the cache. The snapshot cannot be read, but the next update that is accepted
makes it trusted whatever the batch contains (`Subscriber.replaced_snapshot_read`).

`Rewound` is the invariant of everything that comes after the rollback.
-/

namespace ChainReplica

variable {S : Type}

namespace Subscriber

/-- Shares, waits for masters, and has nothing to go back to. -/
def Stranded (s : Subscriber S) (fork : Nat) : Prop :=
  s.settings.sharesAs .slave = true ∧ ∀ e ∈ s.replica.entries, fork < e.1

/-- Whether an update among actions in a row is accepted. -/
def Accepted (s : Subscriber S) : List (Action S) → Prop
  | [] => False
  | a :: rest => s.Accepts a ∨ (s.act a).Accepted rest

end Subscriber

/-! ## The invariant -/

/-- A snapshot of a block that outlives the rollback: a checkpoint up to the
fork point, or written since. -/
def Outlives (s : Subscriber S) (fork : Nat) (written : List (Nat × S)) (e : Nat × S) : Prop :=
  (e ∈ s.replica.entries ∧ e.1 ≤ fork) ∨ e ∈ written

/-- What is left of a subscriber `s` that was rolled back to a fork point, after
`written` was written, and if `accepted` some update was accepted. -/
structure Rewound (s : Subscriber S) (fork : Nat) (written : List (Nat × S)) (accepted : Prop)
    (r : Replica S) : Prop where
  entries : ∀ e ∈ r.entries, Outlives s fork written e
  current : ∀ x, r.current = some x → Outlives s fork written (r.pointer, x)
    ∨ (s.Stranded fork ∧ s.replica.current = some x ∧ r.pointer = s.replica.pointer
      ∧ (r.invalid = true ∨ accepted))

namespace Rewound

variable {s : Subscriber S} {fork : Nat} {w w' : List (Nat × S)} {accepted : Prop}
  {r r' : Replica S}

theorem outlives (h : Rewound s fork w accepted r) {e : Nat × S}
    (he : e ∈ r.entries ∨ e ∈ w') : Outlives s fork (w ++ w') e := by
  rcases he with he | he
  · exact (h.entries e he).imp_right (List.mem_append_left _)
  · exact Or.inr (List.mem_append_right _ he)

/-- What is current after a step outlives the rollback, or is still the
snapshot that a stranded slave kept. -/
theorem current_of_wrote (h : Rewound s fork w accepted r) (hw : Wrote w' r r') {x : S}
    (hx : r'.current = some x) : Outlives s fork (w ++ w') (r'.pointer, x)
      ∨ ((s.Stranded fork ∧ s.replica.current = some x ∧ r'.pointer = s.replica.pointer)
        ∧ r.hasSnapshot = true ∧ (r'.invalid = true ∨ accepted)) := by
  rcases hw.current x hx with hwritten | ⟨hsame, hpointer, hinvalid⟩
  · exact Or.inl (h.outlives hwritten)
  · rw [hpointer]
    rcases h.current x hsame with houtlives | ⟨hstranded, hx₀, hpointer₀, htrust⟩
    · exact Or.inl (houtlives.imp_right (List.mem_append_left _))
    · exact Or.inr ⟨⟨hstranded, hx₀, hpointer₀⟩, Replica.hasSnapshot_iff.mpr ⟨x, hsame⟩,
        htrust.imp_left hinvalid⟩

/-- One action after the rollback. -/
theorem act {t : Subscriber S} (h : Rewound s fork w accepted t.replica) (a : Action S) :
    Rewound s fork (w ++ t.writes a) (accepted ∨ t.Accepts a) (t.act a).replica := by
  rcases t.act_wrote a with hw | ⟨haccepts, r, hw, hr⟩
  · refine ⟨fun e he => h.outlives (hw.entries e he), fun x hx => ?_⟩
    refine (h.current_of_wrote hw hx).imp_right ?_
    rintro ⟨⟨hstranded, hx₀, hpointer⟩, -, htrust⟩
    exact ⟨hstranded, hx₀, hpointer, htrust.imp_right Or.inl⟩
  · rw [hr]
    refine ⟨fun e he => h.outlives (hw.entries e he), fun x hx => ?_⟩
    refine (h.current_of_wrote hw hx).imp_right ?_
    rintro ⟨⟨hstranded, hx₀, hpointer⟩, hhas, -⟩
    exact ⟨hstranded, hx₀, hpointer, Or.inr (Or.inr (haccepts hhas))⟩

/-- Any number of actions after the rollback. -/
theorem perform : ∀ {actions : List (Action S)} {t : Subscriber S} {w : List (Nat × S)}
    {accepted : Prop}, Rewound s fork w accepted t.replica →
    Rewound s fork (w ++ t.written actions) (accepted ∨ t.Accepted actions)
      (t.perform actions).replica
  | [], t, w, accepted, h => by
      rwa [Subscriber.written, Subscriber.Accepted, List.append_nil, or_false]
  | a :: rest, t, w, accepted, h => by
      have hrest : Rewound s fork (w ++ t.writes a ++ (t.act a).written rest)
          ((accepted ∨ t.Accepts a) ∨ (t.act a).Accepted rest) ((t.act a).perform rest).replica :=
        (h.act a).perform
      rwa [List.append_assoc, or_assoc] at hrest

end Rewound

/-! ## The rollback itself -/

namespace Subscriber

variable {s : Subscriber S} {fork : Nat}

/-- Right after the rollback nothing of a block after the fork point is left,
except with a stranded slave. -/
theorem rewound_rollback (ha : s.replica.inactive = false) :
    Rewound s fork [] False (s.invalidate.rollback fork).1.replica := by
  have hcut : ∀ e ∈ (s.replica.cut fork).entries, Outlives s fork [] e :=
    fun e he => Or.inl (Replica.mem_cut.mp he)
  cases hc : s.replica.history.latestUpTo fork with
  | some e =>
      obtain ⟨c, x⟩ := e
      have hmem : Outlives s fork [] (c, x) := Or.inl (History.latestUpTo_eq_some_iff.mp hc).1
      rw [rollback_of_some ha hc]
      refine ⟨fun e he => ?_, fun y hy => Or.inl ?_⟩
      · rcases (Replica.mem_apply.mp he).1 with rfl | ⟨he, -⟩
        · exact hmem
        · exact hcut e he
      · obtain rfl : x = y := Option.some.inj hy
        exact hmem
  | none =>
      rw [rollback_of_none ha hc, put]
      split
      · rename_i hinactive
        exact absurd (ha.symm.trans hinactive) Bool.false_ne_true
      · split
        · rename_i hslave
          rw [replica_requestRefresh]
          exact ⟨hcut, fun x hx => Or.inr
            ⟨⟨hslave, History.latestUpTo_eq_none_iff.mp hc⟩, hx, rfl, Or.inl rfl⟩⟩
        · refine ⟨hcut, fun x hx => ?_⟩
          cases hx

theorem read?_eq_some {least : Nat} {x : S} (h : s.read? least = some x) :
    s.replica.invalid = false ∧ s.replica.current = some x := by
  rw [read?, Replica.fresh?] at h
  split at h
  · cases h
  · rename_i hvalid
    split at h
    · exact ⟨Bool.eq_false_iff.mpr hvalid, h⟩
    · cases h

/-- What may be read after a snapshot was marked as not trusted and rolled back:
a checkpoint up to the fork point, or what was written since. Only a stranded
slave may still answer with the snapshot it held, and not before an update was
accepted. -/
theorem read?_after_rollback (s : Subscriber S) (ha : s.replica.inactive = false) (fork : Nat)
    (actions : List (Action S)) (least : Nat) {x : S}
    (hread : ((s.invalidate.rollback fork).1.perform actions).read? least = some x) :
    let rewound := (s.invalidate.rollback fork).1
    let pointer := (rewound.perform actions).replica.pointer
    ((pointer, x) ∈ s.replica.entries ∧ pointer ≤ fork)
      ∨ (pointer, x) ∈ rewound.written actions
      ∨ (s.Stranded fork ∧ s.replica.current = some x ∧ pointer = s.replica.pointer
        ∧ rewound.Accepted actions) := by
  intro rewound pointer
  obtain ⟨hvalid, hcurrent⟩ := read?_eq_some hread
  have hrewound : Rewound s fork ([] ++ rewound.written actions)
      (False ∨ rewound.Accepted actions) (rewound.perform actions).replica :=
    (rewound_rollback ha).perform
  rcases hrewound.current x hcurrent with (hold | hnew) | ⟨hstranded, hx, hpointer, htrust⟩
  · exact Or.inl hold
  · exact Or.inr (Or.inl hnew)
  · rcases htrust with hinvalid | hfalse | haccepted
    · exact absurd (hvalid.symm.trans hinvalid) Bool.false_ne_true
    · exact hfalse.elim
    · exact Or.inr (Or.inr ⟨hstranded, hx, hpointer, haccepted⟩)

/-- A slave that shares, with a snapshot of block 10 and no other. -/
def slaveAtTen : Subscriber Counter :=
  ((Subscriber.new ⟨"g", "n"⟩ (Counter.venue 7)
    { Settings.default with role := .slave, shareCache := true }).establish
      ⟨fun _ => .ok ⟨0⟩, none, none, .ok ()⟩ 10 (.supplied ⟨4⟩)).subscriber

/-- An update without logs and headers makes a stranded slave answer with the
snapshot of block 10, although block 5 is the last one that both branches of
the chain share. Nothing was written. -/
theorem replaced_snapshot_read :
    let rewound := (slaveAtTen.invalidate.rollback 5).1
    let later := [Action.update ⟨fun _ => .ok ⟨0⟩, [], .empty⟩]
    slaveAtTen.replica.entries = [(10, ⟨4⟩)] ∧ rewound.read? 0 = none
      ∧ (rewound.perform later).read? 0 = some ⟨4⟩
      ∧ (rewound.perform later).replica.pointer = 10 ∧ rewound.written later = [] :=
  ⟨rfl, rfl, rfl, rfl, rfl⟩

/-- What the slave may read is the exception. -/
theorem read?_after_rollback_slave :
    let rewound := (slaveAtTen.invalidate.rollback 5).1
    rewound.Accepted [.update ⟨fun _ => .ok ⟨0⟩, [], .empty⟩] := by
  have h := read?_after_rollback slaveAtTen rfl 5
    [.update ⟨fun _ => .ok ⟨0⟩, [], .empty⟩] 0 (x := ⟨4⟩) rfl
  rcases h with ⟨hold, hle⟩ | hnew | ⟨-, -, -, haccepted⟩
  · exact absurd hle (by decide)
  · cases hnew
  · exact haccepted

end Subscriber

end ChainReplica
