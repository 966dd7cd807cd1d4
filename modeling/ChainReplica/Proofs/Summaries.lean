import Mathlib.Algebra.BigOperators.Group.Finset.Piecewise
import Mathlib.Algebra.GroupWithZero.Nat
import ChainReplica.Proofs.Keyed
import ChainReplica.Tally

/-!
# Nothing is counted twice, nothing is lost

A message is counted when it comes, and shown in one line with others of its key: by a
later message, by a flush, or by the background flusher. Whoever shows a line, it is
about one key, it covers all that was counted for this key, and nothing is left
(`Flushing.call_spec`). So the messages of a key that wait are those that came behind
the last line about it (`Event.waiting`), and the tally has them by their number and the
time of the first (`Tally.Awaits`).
-/

namespace ChainReplica

/-! ## Single operations -/

namespace Tally

variable {t : Tally} {now : Nat} {key other : String}

/-- No key is counted twice. -/
def Distinct (t : Tally) : Prop := (t.pending.map (·.key)).Nodup

/-- What is pending under a key together with a message that comes now. -/
def counted (t : Tally) (now : Nat) (key : String) : Pending :=
  match t.find? key with
  | some p => { p with count := p.count + 1 }
  | none => ⟨key, 1, now⟩

theorem key_of_find? {p : Pending} (h : t.find? key = some p) : p.key = key := by
  simpa using List.find?_some h

theorem counted_of_none (h : t.find? key = none) : t.counted now key = ⟨key, 1, now⟩ := by
  rw [counted, h]

theorem counted_of_some {p : Pending} (h : t.find? key = some p) :
    t.counted now key = { p with count := p.count + 1 } := by
  rw [counted, h]

theorem counted_key (t : Tally) (now : Nat) (key : String) : (t.counted now key).key = key := by
  cases hfind : t.find? key with
  | none => rw [counted_of_none hfind]
  | some p =>
      rw [counted_of_some hfind]
      change p.key = key
      exact key_of_find? hfind

/-- A message is shown with the others of its key, or it waits with them. -/
theorem record_of_due (h : t.due now (t.counted now key) = true) :
    t.record now key = (some (t.counted now key).count, t.erase key) := if_pos h

theorem record_of_not_due (h : t.due now (t.counted now key) = false) :
    t.record now key =
      (none, { t with pending := t.counted now key :: (t.erase key).pending }) :=
  if_neg (Bool.eq_false_iff.mp h)

theorem find?_erase_self : (t.erase key).find? key = none := find?_others_self t.pending key

theorem find?_erase_of_ne (h : other ≠ key) : (t.erase key).find? other = t.find? other :=
  find?_others t.pending h

theorem find?_record_self : (t.record now key).2.find? key =
    if t.due now (t.counted now key) then none else some (t.counted now key) := by
  cases hdue : t.due now (t.counted now key) with
  | true =>
      rw [record_of_due hdue, find?_erase_self]
      rfl
  | false =>
      have hhead : ((t.counted now key).key == key) = true := by simp [counted_key]
      rw [record_of_not_due hdue, find?, List.find?_cons, hhead]
      rfl

theorem find?_record_of_ne (h : other ≠ key) :
    (t.record now key).2.find? other = t.find? other := by
  cases hdue : t.due now (t.counted now key) with
  | true => rw [record_of_due hdue, find?_erase_of_ne h]
  | false =>
      have hhead : ((t.counted now key).key == other) = false := by
        simpa [counted_key] using h.symm
      rw [record_of_not_due hdue, find?, List.find?_cons, hhead]
      exact find?_erase_of_ne h

theorem find?_drain : t.drain.2.find? key = none := rfl

theorem find?_drainDue (h : t.Distinct) :
    (t.drainDue now).2.find? key = (t.find? key).filter fun p => !t.due now p :=
  find?_filter_key h _ key

theorem Distinct.erase (h : t.Distinct) (key : String) : (t.erase key).Distinct :=
  h.sublist (List.filter_sublist.map _)

theorem Distinct.record (h : t.Distinct) (now : Nat) (key : String) :
    (t.record now key).2.Distinct := by
  cases hdue : t.due now (t.counted now key) with
  | true =>
      rw [record_of_due hdue]
      exact h.erase key
  | false =>
      rw [record_of_not_due hdue]
      exact List.nodup_cons.mpr ⟨by simp [counted_key, Tally.erase], h.erase key⟩

theorem Distinct.drainDue (h : t.Distinct) (now : Nat) : (t.drainDue now).2.Distinct :=
  h.sublist (List.filter_sublist.map _)

theorem distinct_drain (t : Tally) : t.drain.2.Distinct := List.nodup_nil

/-- What is due is taken out under distinct keys, each as it was pending. -/
theorem nodup_due (h : t.Distinct) (now : Nat) : ((t.drainDue now).1.map (·.key)).Nodup :=
  h.sublist (List.filter_sublist.map _)

theorem find?_due (h : t.Distinct) (now : Nat) (key : String) :
    (t.drainDue now).1.find? (·.key == key) = (t.find? key).filter (t.due now) :=
  find?_filter_key h _ key

/-! ## Sums -/

/-- A sum over a list is a sum over keys. -/
theorem total_eq_sum {xs : List Pending} (h : (xs.map (·.key)).Nodup) {keys : Finset String}
    (hkeys : ∀ p ∈ xs, p.key ∈ keys) :
    total xs = ∑ key ∈ keys, ((xs.find? (·.key == key)).map (·.count)).getD 0 := by
  induction xs with
  | nil => simp [total]
  | cons p rest ih =>
      obtain ⟨hp, hrest⟩ := List.nodup_cons.mp h
      obtain ⟨hmem, hlater⟩ := List.forall_mem_cons.mp hkeys
      have hsplit : ∀ key, (((p :: rest).find? (·.key == key)).map (·.count)).getD 0 =
          (if p.key = key then p.count else 0)
            + ((rest.find? (·.key == key)).map (·.count)).getD 0 := by
        intro key
        by_cases hk : p.key = key
        · subst hk
          have hnone : rest.find? (·.key == p.key) = none := by
            refine List.find?_eq_none.mpr fun q hq hsame => hp ?_
            exact List.mem_map.mpr ⟨q, hq, by simpa using hsame⟩
          simp [hnone]
        · simp [hk]
      simp only [hsplit, Finset.sum_add_distrib, Finset.sum_ite_eq, if_pos hmem]
      rw [total, ih hrest hlater]

end Tally

namespace Flushing

/-! ## Calls and the lines they show -/

/-- What the owner of a tally does, and the turns of the flusher. -/
inductive Call where
  | record (key : String)
  | flush
  | flushDue
  | spawn
  | tick
  deriving DecidableEq

/-- A line that was shown: so many messages of a key. -/
structure Line where
  key : String
  count : Nat
  deriving DecidableEq

def linesOf (taken : List Pending) : List Line := taken.map fun p => ⟨p.key, p.count⟩

/-- What is due is shown, if there is a tally. -/
def dueLines (f : Flushing) (now : Nat) : List Line :=
  linesOf ((f.tally.map fun t => (t.drainDue now).1).getD [])

/-- Makes a call at a time: the lines that it shows, and what is left. -/
def call (f : Flushing) (now : Nat) : Call → List Line × Flushing
  | .record key =>
    (((f.tally.bind fun t => (t.record now key).1).map fun count => ⟨key, count⟩).toList,
      { f with tally := f.tally.map fun t => (t.record now key).2 })
  | .flush =>
    (linesOf ((f.tally.map fun t => t.drain.1).getD []),
      { f with tally := f.tally.map fun t => t.flush.2 })
  | .flushDue =>
    (f.dueLines now, { f with tally := f.tally.map fun t => (t.flushDue now).2 })
  | .spawn => (f.dueLines now, f.spawn now)
  | .tick => (if f.ended.isSome then f.dueLines now else [], (f.tick now).2)

def countsFor (key : String) (lines : List Line) : List Nat :=
  (lines.filter (·.key == key)).map (·.count)

variable {f : Flushing} {t : Tally} {now : Nat} {key : String}

theorem countsFor_linesOf {taken : List Pending} (h : (taken.map (·.key)).Nodup) (key : String) :
    countsFor key (linesOf taken) =
      ((taken.find? (·.key == key)).map (·.count)).toList := by
  have hfilter : (linesOf taken).filter (·.key == key) =
      linesOf (taken.filter (·.key == key)) := by
    rw [linesOf, List.filter_map]
    rfl
  rw [countsFor, hfilter, filter_key_eq h]
  cases taken.find? (·.key == key) <;> rfl

/-- What is pending under a key is shown, all of it in one line, and then it is gone; or
it is not shown and stays. -/
def ShownOrLeft (p? : Option Pending) (counts : List Nat) (left : Option Pending) : Prop :=
  (∃ p, p? = some p ∧ counts = [p.count] ∧ left = none) ∨ (counts = [] ∧ left = p?)

theorem shownOrLeft_drainDue (h : t.Distinct) (now : Nat) (key : String) :
    ShownOrLeft (t.find? key) (countsFor key (linesOf (t.drainDue now).1))
      ((t.drainDue now).2.find? key) := by
  rw [countsFor_linesOf (Tally.nodup_due h now), Tally.find?_due h, Tally.find?_drainDue h]
  cases t.find? key with
  | none => exact Or.inr ⟨rfl, rfl⟩
  | some p =>
      cases hdue : t.due now p with
      | true => exact Or.inl ⟨p, rfl, by simp [Option.filter, hdue], by simp [Option.filter, hdue]⟩
      | false => exact Or.inr ⟨by simp [Option.filter, hdue], by simp [Option.filter, hdue]⟩

theorem shownOrLeft_drain (h : t.Distinct) (key : String) :
    ShownOrLeft (t.find? key) (countsFor key (linesOf t.drain.1)) (t.drain.2.find? key) := by
  have htaken : countsFor key (linesOf t.drain.1) = ((t.find? key).map (·.count)).toList :=
    countsFor_linesOf h key
  rw [htaken, Tally.find?_drain]
  cases t.find? key with
  | none => exact Or.inr ⟨rfl, rfl⟩
  | some p => exact Or.inl ⟨p, rfl, rfl, rfl⟩

theorem shownOrLeft_record_self (t : Tally) (now : Nat) (key : String) :
    ShownOrLeft (some (t.counted now key))
      (countsFor key (((t.record now key).1.map fun count => ⟨key, count⟩).toList))
      ((t.record now key).2.find? key) := by
  rw [Tally.find?_record_self]
  cases hdue : t.due now (t.counted now key) with
  | true =>
      rw [Tally.record_of_due hdue]
      exact Or.inl ⟨_, rfl, by simp [countsFor], rfl⟩
  | false =>
      rw [Tally.record_of_not_due hdue]
      exact Or.inr ⟨rfl, rfl⟩

theorem shownOrLeft_record_of_ne (t : Tally) (now : Nat) {key other : String} (h : other ≠ key) :
    ShownOrLeft (t.find? other)
      (countsFor other (((t.record now key).1.map fun count => ⟨key, count⟩).toList))
      ((t.record now key).2.find? other) := by
  refine Or.inr ⟨?_, Tally.find?_record_of_ne h⟩
  cases (t.record now key).1 with
  | none => rfl
  | some count => simp [countsFor, h.symm]

/-- A call counts one message or none, and then each key is shown or left. -/
theorem call_spec (ht : f.tally = some t) (h : t.Distinct) (now : Nat) (c : Call) :
    ∃ t', (f.call now c).2.tally = some t' ∧ t'.window = t.window ∧ t'.Distinct ∧ ∀ key,
      ShownOrLeft (if c = .record key then some (t.counted now key) else t.find? key)
        (countsFor key (f.call now c).1) (t'.find? key) := by
  have hlines : f.dueLines now = linesOf (t.drainDue now).1 := by rw [dueLines, ht]; rfl
  cases c with
  | record k =>
      refine ⟨(t.record now k).2, by simp [call, ht], ?_, h.record now k, fun key => ?_⟩
      · cases hdue : t.due now (t.counted now k) with
        | true => rw [Tally.record_of_due hdue]; rfl
        | false => rw [Tally.record_of_not_due hdue]
      · by_cases hk : key = k
        · subst hk
          simpa [call, ht] using shownOrLeft_record_self t now key
        · simpa [call, ht, Ne.symm hk] using shownOrLeft_record_of_ne t now hk
  | flush =>
      refine ⟨t.drain.2, by simp [call, ht, Tally.flush], rfl, t.distinct_drain, fun key => ?_⟩
      simpa [call, ht] using shownOrLeft_drain h key
  | flushDue =>
      refine ⟨(t.drainDue now).2, by simp [call, ht, Tally.flushDue], rfl, h.drainDue now,
        fun key => ?_⟩
      simpa [call, hlines] using shownOrLeft_drainDue h now key
  | spawn =>
      refine ⟨(t.drainDue now).2, by simp [call, spawn, tick, ht, Tally.flushDue], rfl,
        h.drainDue now, fun key => ?_⟩
      simpa [call, hlines] using shownOrLeft_drainDue h now key
  | tick =>
      cases hended : f.ended with
      | none =>
          refine ⟨t, by simp [call, tick, ht, hended], rfl, h, fun key => ?_⟩
          exact Or.inr ⟨by simp [call, hended, countsFor], by simp⟩
      | some ended =>
          refine ⟨(t.drainDue now).2, by simp [call, tick, ht, hended, Tally.flushDue], rfl,
            h.drainDue now, fun key => ?_⟩
          simpa [call, hended, hlines] using shownOrLeft_drainDue h now key

/-! ## Messages that wait -/

/-- A call that was made, with the lines that it showed. -/
structure Event where
  now : Nat
  call : Call
  lines : List Line

/-- The messages of a key that wait are those behind the last line about it: when they
came, if some waited already. -/
def Event.waiting (key : String) (times : List Nat) (e : Event) : List Nat :=
  if countsFor key e.lines = [] then
    if e.call = .record key then times ++ [e.now] else times
  else []

end Flushing

/-- What is pending under a key are messages that came at these times. -/
def Tally.Awaits (t : Tally) (key : String) (times : List Nat) : Prop :=
  t.find? key = times.head?.map fun first => ⟨key, times.length, first⟩

namespace Tally

variable {t : Tally} {now : Nat} {key : String} {times : List Nat}

theorem Awaits.pendingCount (h : t.Awaits key times) : t.pendingCount key = times.length := by
  rw [Tally.pendingCount, h]
  cases times <;> rfl

theorem Awaits.since (h : t.Awaits key times) : (t.find? key).map (·.since) = times.head? := by
  rw [h]
  cases times <;> rfl

theorem Awaits.counted (h : t.Awaits key times) (now : Nat) :
    t.counted now key = ⟨key, times.length + 1, times.headD now⟩ := by
  cases times with
  | nil => exact counted_of_none h
  | cons first rest => exact counted_of_some h

end Tally

namespace Flushing

variable {f : Flushing} {t : Tally} {now : Nat} {key : String} {times : List Nat}

/-- A line about a key covers the messages that wait and leaves none of them. -/
theorem Event.awaits {e : Event} {left : Option Pending} (h : t.Awaits key times)
    (hgoes : ShownOrLeft (if e.call = .record key then some (t.counted e.now key) else t.find? key)
      (countsFor key e.lines) left) :
    (left = (e.waiting key times).head?.map fun first => ⟨key, (e.waiting key times).length, first⟩)
      ∧ (countsFor key e.lines).sum + (e.waiting key times).length =
        times.length + if e.call = .record key then 1 else 0 := by
  let all := if e.call = .record key then times ++ [e.now] else times
  have hlength : all.length = times.length + if e.call = .record key then 1 else 0 := by
    by_cases hcall : e.call = .record key <;> simp [all, hcall]
  have hpending : (if e.call = .record key then some (t.counted e.now key) else t.find? key) =
      all.head?.map fun first => ⟨key, all.length, first⟩ := by
    by_cases hcall : e.call = .record key
    · cases times <;> simp [all, hcall, h.counted]
    · simp only [all, hcall, if_false]
      exact h
  rw [hpending] at hgoes
  rw [← hlength]
  rcases hgoes with ⟨p, hp, hcounts, rfl⟩ | ⟨hcounts, rfl⟩
  · have hnone : e.waiting key times = [] := by simp [Event.waiting, hcounts]
    obtain ⟨first, -, rfl⟩ := Option.map_eq_some_iff.mp hp
    rw [hnone, hcounts]
    exact ⟨rfl, by simp⟩
  · have hall : e.waiting key times = all := if_pos hcounts
    rw [hall, hcounts]
    exact ⟨rfl, by simp⟩

/-! ## Runs -/

/-- The events of calls that are made one after the other, each at its time. -/
def events (f : Flushing) : List (Nat × Call) → List Event
  | [] => []
  | (now, c) :: rest => ⟨now, c, (f.call now c).1⟩ :: (f.call now c).2.events rest

def after (f : Flushing) (calls : List (Nat × Call)) : Flushing :=
  calls.foldl (fun f c => (f.call c.1 c.2).2) f

/-- The times of the messages of a key that were not shown. -/
def waiting (key : String) (past : List Event) : List Nat := past.foldl (Event.waiting key) []

def shown (key : String) (past : List Event) : Nat :=
  (past.map fun e => (countsFor key e.lines).sum).sum

def recorded (key : String) (past : List Event) : Nat :=
  past.countP fun e => e.call = .record key

/-- The tally is there, and has what waits after the events. -/
structure Keeps (window : Nat) (f : Flushing) (past : List Event) (t : Tally) : Prop where
  there : f.tally = some t
  window_eq : t.window = window
  distinct : t.Distinct
  awaits : ∀ key, t.Awaits key (waiting key past)
  balanced : ∀ key, recorded key past = shown key past + (waiting key past).length

theorem keeps_new (window : Nat) : Keeps window (new window) [] (.new window) where
  there := rfl
  window_eq := rfl
  distinct := List.nodup_nil
  awaits _ := rfl
  balanced _ := rfl

/-- What a call keeps. -/
theorem Keeps.call {window : Nat} {past : List Event} (h : Keeps window f past t) (now : Nat)
    (c : Call) : ∃ t', Keeps window (f.call now c).2 (past ++ [⟨now, c, (f.call now c).1⟩]) t' := by
  obtain ⟨t', hthere, hwindow, hdistinct, hgoes⟩ := call_spec h.there h.distinct now c
  have hstep := fun key => Event.awaits (e := ⟨now, c, (f.call now c).1⟩) (h.awaits key) (hgoes key)
  refine ⟨t', hthere, hwindow.trans h.window_eq, hdistinct, fun key => ?_, fun key => ?_⟩
  · rw [waiting, List.foldl_append]
    exact (hstep key).1
  · have hbefore := h.balanced key
    have hnow := (hstep key).2
    simp only [recorded, shown, waiting, List.countP_append, List.countP_singleton, List.map_append,
      List.map_singleton, List.sum_append, List.sum_singleton, List.foldl_append, List.foldl_cons,
      List.foldl_nil, decide_eq_true_eq] at hbefore hnow ⊢
    omega

/-- What a run keeps. -/
theorem Keeps.run {window : Nat} : ∀ (calls : List (Nat × Call)) {f : Flushing} {past : List Event}
    {t : Tally}, Keeps window f past t →
      ∃ t', Keeps window (f.after calls) (past ++ f.events calls) t'
  | [], _, _, t, h => ⟨t, by simpa [events, after] using h⟩
  | (now, c) :: rest, f, past, t, h => by
      obtain ⟨t', h'⟩ := h.call now c
      obtain ⟨t'', h''⟩ := h'.run rest
      rw [List.append_assoc] at h''
      exact ⟨t'', h''⟩

theorem recorded_events (key : String) : ∀ (calls : List (Nat × Call)) (f : Flushing),
    recorded key (f.events calls) = calls.countP fun c => c.2 = .record key
  | [], _ => rfl
  | (now, c) :: rest, f => by
      have ih := recorded_events key rest (f.call now c).2
      rw [recorded] at ih ⊢
      rw [events, List.countP_cons, List.countP_cons, ih]

/-! ## What a run leaves -/

section Left

variable {window : Nat} {past : List Event} (h : Keeps window f past t)

include h

theorem Keeps.record_fst (key : String) (now : Nat) : (t.record now key).1 =
    if window ≤ now - (waiting key past).headD now then some ((waiting key past).length + 1)
    else none := by
  have hcounted := (h.awaits key).counted now
  have hdue : t.due now (t.counted now key) =
      decide (window ≤ now - (waiting key past).headD now) := by
    rw [Tally.due, h.window_eq, hcounted]
  cases hlate : t.due now (t.counted now key) with
  | true =>
      rw [Tally.record_of_due hlate, if_pos (of_decide_eq_true (hdue.symm.trans hlate)), hcounted]
  | false =>
      rw [Tally.record_of_not_due hlate, if_neg (of_decide_eq_false (hdue.symm.trans hlate))]

theorem Keeps.find?_flushDue (key : String) (now : Nat) : (t.flushDue now).2.find? key =
    if ∃ first ∈ (waiting key past).head?, window ≤ now - first then none else t.find? key := by
  have hfind : (t.drainDue now).2.find? key = _ := Tally.find?_drainDue h.distinct
  rw [Tally.flushDue, hfind, h.awaits key]
  cases waiting key past with
  | nil => simp
  | cons first rest =>
      by_cases hlate : window ≤ now - first <;>
        simp [Option.filter, Tally.due, h.window_eq, hlate]

theorem Keeps.mem_of_pending {keys : Finset String}
    (hkeys : ∀ key, t.pendingCount key ≠ 0 → key ∈ keys) {p : Pending} (hp : p ∈ t.pending) :
    p.key ∈ keys := by
  refine hkeys p.key ?_
  have hfound : t.find? p.key = some p := find?_key_of_mem h.distinct hp
  have hawaits := h.awaits p.key
  rw [hawaits.pendingCount]
  intro hzero
  rw [Tally.Awaits, hfound, List.length_eq_zero_iff.mp hzero] at hawaits
  cases hawaits

theorem Keeps.flush_fst {keys : Finset String}
    (hkeys : ∀ key, t.pendingCount key ≠ 0 → key ∈ keys) :
    t.flush.1 = ∑ key ∈ keys, (t.pendingCount key - t.flush.2.pendingCount key) := by
  rw [Tally.flush, Tally.drain, Tally.total_eq_sum h.distinct fun p => h.mem_of_pending hkeys]
  rfl

theorem Keeps.flushDue_fst {keys : Finset String}
    (hkeys : ∀ key, t.pendingCount key ≠ 0 → key ∈ keys) (now : Nat) :
    (t.flushDue now).1 =
      ∑ key ∈ keys, (t.pendingCount key - (t.flushDue now).2.pendingCount key) := by
  have hmem : ∀ p ∈ (t.drainDue now).1, p.key ∈ keys := fun p hp =>
    h.mem_of_pending hkeys (List.mem_filter.mp hp).1
  rw [Tally.flushDue, Tally.total_eq_sum (Tally.nodup_due h.distinct now) hmem]
  refine Finset.sum_congr rfl fun key _ => ?_
  rw [Tally.find?_due h.distinct, Tally.pendingCount, Tally.pendingCount,
    Tally.find?_drainDue h.distinct]
  cases t.find? key with
  | none => rfl
  | some p => cases hdue : t.due now p <;> simp [Option.filter, hdue]

end Left

/-- However a tally is used, and whenever its flusher runs: what was counted of a key is
what was shown of it and what is pending. A message is shown if the first that waits is
old enough, and all that wait with it; a flush leaves nothing; a flush of what is due
takes out every key that is due and touches no other; both answer with what they took
out. -/
theorem counts_conserved (window : Nat) (calls : List (Nat × Call)) :
    let past := (new window).events calls
    ∃ t, ((new window).after calls).tally = some t
      ∧ (∀ key, (calls.countP fun c => c.2 = .record key) = shown key past + t.pendingCount key)
      ∧ (∀ key, t.pendingCount key = (waiting key past).length
        ∧ (t.find? key).map (·.since) = (waiting key past).head?)
      ∧ (∀ key now, (t.record now key).1 =
          (if window ≤ now - (waiting key past).headD now then
            some ((waiting key past).length + 1) else none)
        ∧ ∀ other, other ≠ key → (t.record now key).2.find? other = t.find? other)
      ∧ (∀ key, t.flush.2.pendingCount key = 0)
      ∧ (∀ key now, (t.flushDue now).2.find? key =
        if ∃ first ∈ (waiting key past).head?, window ≤ now - first then none else t.find? key)
      ∧ ∀ keys : Finset String, (∀ key, t.pendingCount key ≠ 0 → key ∈ keys) →
        t.flush.1 = ∑ key ∈ keys, (t.pendingCount key - t.flush.2.pendingCount key)
          ∧ ∀ now, (t.flushDue now).1 =
            ∑ key ∈ keys, (t.pendingCount key - (t.flushDue now).2.pendingCount key) := by
  intro past
  obtain ⟨t, h⟩ := (keeps_new window).run calls
  refine ⟨t, h.there, fun key => ?_, fun key => ⟨?_, ?_⟩, fun key now => ⟨?_, ?_⟩, fun key => rfl,
    ?_, fun keys hkeys => ⟨h.flush_fst hkeys, h.flushDue_fst hkeys⟩⟩
  · rw [← recorded_events key calls (new window), (h.awaits key).pendingCount]
    exact h.balanced key
  · exact (h.awaits key).pendingCount
  · exact (h.awaits key).since
  · exact h.record_fst key now
  · exact fun other hother => Tally.find?_record_of_ne hother
  · exact h.find?_flushDue

/-- The flusher shows one key when it is due, and the other waits for the owner. -/
example : ((new 10).events [(0, .spawn), (1, .record "a"), (2, .record "a"), (6, .record "b"),
      (11, .tick), (12, .record "a"), (30, .record "a"), (31, .flush)]).map (·.lines) =
    [[], [], [], [], [⟨"a", 2⟩], [], [⟨"a", 2⟩], [⟨"b", 1⟩]] := by
  decide

end Flushing

end ChainReplica
