import Mathlib.Algebra.Group.Nat.Defs
import Mathlib.Logic.Basic
import ChainReplica.Venue.Reserves

/-!
# The fold of a block of a pair

To the fold of a block, a log is an event or nothing at all. An event is a `Sync` log
of the pair whose data can be read, and all of it is the two numbers it carries
(`Reserves.event?`). Each one replaces what was there before, so that the fold answers
with the last one, unless one of them cannot be believed.

`Reserves.fold_of_events` says what follows: two lists of logs with the same events
have the same fold, onto whatever snapshot and under whatever header. A replay may
begin anywhere.
-/

namespace ChainReplica

namespace Reserves

/-- Whether a log is a `Sync` log of the pair. -/
def isSync (pair : Address) (log : Log) : Bool :=
  log.address == pair && log.topics.head? == some syncTopic

/-- The numbers in a log, if it is a `Sync` log of the pair and can be read. -/
def event? (pair : Address) (log : Log) : Option (Nat × Nat) :=
  if isSync pair log then (decodeSync log).toOption else none

/-- The numbers in the readable `Sync` logs of the pair, in order. -/
def events (pair : Address) (logs : List Log) : List (Nat × Nat) := logs.filterMap (event? pair)

/-- Both numbers are at most the greatest reserve that is believed. -/
def Believed (e : Nat × Nat) : Prop := e.1 ≤ bound ∧ e.2 ≤ bound

instance : DecidablePred Believed := fun _ => inferInstanceAs (Decidable (_ ∧ _))

def ofEvent (e : Nat × Nat) : Reserves := ⟨e.1, e.2⟩

variable {pair : Address} {log : Log} {logs : List Log} {e : Nat × Nat} {base : Reserves}
  {header : Option Header}

/-! ## One log -/

theorem isSync_iff :
    isSync pair log = true ↔ log.address = pair ∧ log.topics.head? = some syncTopic := by
  simp [isSync]

theorem event?_eq_some_iff : event? pair log = some e ↔
    log.address = pair ∧ log.topics.head? = some syncTopic ∧ decodeSync log = .ok e := by
  rw [← and_assoc, ← isSync_iff, event?]
  cases decodeSync log <;> simp [Except.toOption]

theorem event?_eq_none_iff : event? pair log = none ↔
    log.address ≠ pair ∨ log.topics.head? ≠ some syncTopic ∨ ∃ f, decodeSync log = .error f := by
  rw [← or_assoc, ← not_and_or, ← isSync_iff, event?]
  cases decodeSync log <;> simp [Except.toOption]

theorem ofPair_of_believed (h : Believed e) : ofPair e = .ok (ofEvent e) :=
  if_neg (not_or.mpr ⟨Nat.not_lt.mpr h.1, Nat.not_lt.mpr h.2⟩)

theorem ofPair_of_excessive (h : ¬Believed e) :
    ∃ text, ofPair e = .error (.plain .processing text) :=
  ⟨_, if_pos ((not_and_or.mp h).imp Nat.lt_of_not_le Nat.lt_of_not_le)⟩

theorem rule_of_event (h : event? pair log = some e) (base : Reserves) (header : Option Header) :
    rule pair base log header = (ofPair e).map some := by
  obtain ⟨haddress, htopic, hdata⟩ := event?_eq_some_iff.mp h
  rw [rule, if_pos ⟨haddress, htopic⟩, hdata]

theorem rule_of_none (h : event? pair log = none) (base : Reserves) (header : Option Header) :
    rule pair base log header = .ok none := by
  rw [rule]
  split
  · rename_i hown
    cases hdata : decodeSync log with
    | error f => rfl
    | ok e => cases h.symm.trans (event?_eq_some_iff.mpr ⟨hown.1, hown.2, hdata⟩)
  · rfl

/-! ## Many logs -/

theorem events_append (pair : Address) (front back : List Log) :
    events pair (front ++ back) = events pair front ++ events pair back :=
  List.filterMap_append

theorem events_cons_of_none (h : event? pair log = none) :
    events pair (log :: logs) = events pair logs :=
  List.filterMap_cons_none h

theorem events_cons_of_some (h : event? pair log = some e) :
    events pair (log :: logs) = e :: events pair logs :=
  List.filterMap_cons_some h

theorem events_eq_nil_iff : events pair logs = [] ↔ ∀ log ∈ logs, event? pair log = none :=
  List.filterMap_eq_nil_iff

/-- Events that can all be believed: the last one is kept. -/
theorem foldOnto_of_believed (base : Reserves) (header : Option Header) :
    ∀ {logs : List Log} (changed : Option Reserves), (∀ e ∈ events pair logs, Believed e) →
      foldOnto (rule pair) header base changed logs =
        .ok (((events pair logs).getLast?.map ofEvent).or changed)
  | [], _, _ => rfl
  | log :: rest, changed, h => by
      rw [foldOnto]
      cases hlog : event? pair log with
      | none =>
          rw [events_cons_of_none hlog] at h ⊢
          rw [rule_of_none hlog]
          exact foldOnto_of_believed base header changed h
      | some e =>
          rw [events_cons_of_some hlog] at h ⊢
          obtain ⟨hfirst, hrest⟩ := List.forall_mem_cons.mp h
          rw [rule_of_event hlog, ofPair_of_believed hfirst, List.getLast?_cons]
          refine (foldOnto_of_believed base header (some (ofEvent e)) hrest).trans ?_
          cases (events pair rest).getLast? <;> rfl

/-- The first event that cannot be believed ends the fold. -/
theorem foldOnto_of_excessive (base : Reserves) (header : Option Header) :
    ∀ {logs : List Log} (changed : Option Reserves),
      (events pair logs).find? (fun e => ¬Believed e) = some e →
      foldOnto (rule pair) header base changed logs = (ofPair e).map some
  | [], _, h => nomatch h
  | log :: rest, changed, h => by
      rw [foldOnto]
      cases hlog : event? pair log with
      | none =>
          rw [events_cons_of_none hlog] at h
          rw [rule_of_none hlog]
          exact foldOnto_of_excessive base header changed h
      | some first =>
          rw [events_cons_of_some hlog] at h
          rw [rule_of_event hlog]
          by_cases hfirst : Believed first
          · rw [List.find?_cons_of_neg (by simpa using hfirst)] at h
            rw [ofPair_of_believed hfirst]
            exact foldOnto_of_excessive base header (some (ofEvent first)) h
          · rw [List.find?_cons_of_pos (by simpa using hfirst)] at h
            obtain rfl := Option.some.inj h
            obtain ⟨text, htext⟩ := ofPair_of_excessive hfirst
            rw [htext]
            rfl

/-! ## A block -/

/-- Events that can all be believed, or a first one that cannot. -/
theorem believed_or_excessive (pair : Address) (logs : List Log) :
    (∀ e ∈ events pair logs, Believed e)
      ∨ ∃ e, (events pair logs).find? (fun e => ¬Believed e) = some e ∧ ¬Believed e := by
  cases hfind : (events pair logs).find? fun e => ¬Believed e with
  | none => exact Or.inl (by simpa using hfind)
  | some e => exact Or.inr ⟨e, rfl, by simpa using List.find?_some hfind⟩

theorem fold_of_believed (h : ∀ e ∈ events pair logs, Believed e) (base : Reserves)
    (header : Option Header) :
    (venue pair).fold base logs header = .ok ((events pair logs).getLast?.map ofEvent) :=
  (foldOnto_of_believed base header none h).trans (by rw [Option.or_none])

theorem fold_of_excessive (h : (events pair logs).find? (fun e => ¬Believed e) = some e)
    (base : Reserves) (header : Option Header) :
    (venue pair).fold base logs header = (ofPair e).map some :=
  foldOnto_of_excessive base header none h

/-- The fold is decided by the events. -/
theorem fold_congr {others : List Log} (h : events pair others = events pair logs)
    (base other : Reserves) (header under : Option Header) :
    (venue pair).fold other others under = (venue pair).fold base logs header := by
  rcases believed_or_excessive pair logs with hall | ⟨e, hfirst, -⟩
  · rw [fold_of_believed hall, fold_of_believed (h ▸ hall), h]
  · rw [fold_of_excessive hfirst, fold_of_excessive (h ▸ hfirst)]

theorem fold_eq_none_iff :
    (venue pair).fold base logs header = .ok none ↔ events pair logs = [] := by
  rcases believed_or_excessive pair logs with hall | ⟨e, hfirst, hexcessive⟩
  · rw [fold_of_believed hall]
    simp
  · obtain ⟨text, htext⟩ := ofPair_of_excessive hexcessive
    rw [fold_of_excessive hfirst, htext]
    refine ⟨nofun, fun hnil => ?_⟩
    rw [hnil] at hfirst
    cases hfirst

/-- Nothing but the events of a block decides its fold, and of those the last one,
unless one is beyond belief. -/
theorem fold_of_events (pair : Address) (base : Reserves) (logs : List Log)
    (header : Option Header) :
    let fold := (venue pair).fold base logs header
    ((∃ e ∈ events pair logs, 10 ^ 30 < e.1 ∨ 10 ^ 30 < e.2) →
        ∃ text, fold = .error (.plain .processing text))
      ∧ ((∀ e ∈ events pair logs, e.1 ≤ 10 ^ 30 ∧ e.2 ≤ 10 ^ 30) →
        fold = .ok ((events pair logs).getLast?.map fun e => ⟨e.1, e.2⟩))
      ∧ (fold = .ok none ↔ ∀ log ∈ logs, ¬∃ e, log.address = pair
        ∧ log.topics.head? = some syncTopic ∧ decodeSync log = .ok e)
      ∧ (∀ other others under, events pair others = events pair logs →
        (venue pair).fold other others under = fold)
      ∧ ∀ front noise back, logs = front ++ noise :: back →
        (noise.address ≠ pair ∨ noise.topics.head? ≠ some syncTopic
          ∨ ∃ f, decodeSync noise = .error f) →
        (venue pair).fold base (front ++ back) header = fold := by
  intro fold
  refine ⟨?_, fun hall => fold_of_believed hall base header, ?_,
    fun other others under hsame => fold_congr hsame base other header under, ?_⟩
  · rintro ⟨e, he, hlarge⟩
    rcases believed_or_excessive pair logs with hall | ⟨first, hfirst, hexcessive⟩
    · obtain ⟨hle, hle'⟩ := hall e he
      exact absurd hlarge (not_or.mpr ⟨Nat.not_lt.mpr hle, Nat.not_lt.mpr hle'⟩)
    · obtain ⟨text, htext⟩ := ofPair_of_excessive hexcessive
      exact ⟨text, (fold_of_excessive hfirst base header).trans (by rw [htext]; rfl)⟩
  · simp only [fold, fold_eq_none_iff, events_eq_nil_iff, ← event?_eq_some_iff,
      Option.eq_none_iff_forall_ne_some, not_exists]
  · rintro front noise back rfl hnoise
    refine fold_congr ?_ base base header header
    rw [events_append, events_append, events_cons_of_none (event?_eq_none_iff.mpr hnoise)]

/-- A `Sync` log of the pair at address 7. -/
def syncLog (block index : Nat) (r₀ r₁ : UInt8) : Log :=
  ⟨7, [syncTopic], List.replicate 31 0 ++ r₀ :: List.replicate 31 0 ++ [r₁], some block, some index⟩

/-- A trade of another pair and a log without data come after the last event. A number
of fourteen bytes is read, but not believed. -/
theorem fold_of_events_mixed :
    let other : Log := { syncLog 3 2 9 9 with address := 8 }
    let blank : Log := { syncLog 3 3 9 9 with data := [] }
    let huge : Log := { syncLog 3 4 9 9 with
      data := List.replicate 18 0 ++ List.replicate 14 1 ++ List.replicate 32 0 }
    let logs := [syncLog 3 0 5 6, syncLog 3 1 7 8, other, blank]
    events 7 logs = [(5, 6), (7, 8)]
      ∧ (venue 7).fold ⟨1, 2⟩ logs none = .ok (some ⟨7, 8⟩)
      ∧ (venue 7).fold ⟨1, 2⟩ [other, blank] none = .ok none
      ∧ ∃ text, (venue 7).fold ⟨1, 2⟩ (huge :: logs) none = .error (.plain .processing text) := by
  intro other blank huge logs
  have hevents : events 7 logs = [(5, 6), (7, 8)] := by decide +kernel
  have hnone : events 7 [other, blank] = [] := by decide +kernel
  have hexcessive : ∃ e ∈ events 7 (huge :: logs), 10 ^ 30 < e.1 ∨ 10 ^ 30 < e.2 := by
    decide +kernel
  refine ⟨hevents, ?_, ?_, (fold_of_events 7 ⟨1, 2⟩ (huge :: logs) none).1 hexcessive⟩
  · rw [(fold_of_events 7 ⟨1, 2⟩ logs none).2.1 (by rw [hevents]; decide), hevents]
    rfl
  · rw [(fold_of_events 7 ⟨1, 2⟩ [other, blank] none).2.1 (by rw [hnone]; decide), hnone]
    rfl

end Reserves

end ChainReplica
