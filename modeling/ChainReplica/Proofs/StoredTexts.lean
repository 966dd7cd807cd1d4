import Mathlib.Data.Finset.Card
import ChainReplica.Cache.Store
import ChainReplica.Proofs.Keyed

/-!
# What a store answers

A text is removed when it is read after it has expired, and at no other time, so what
a store holds depends on what was asked of it. What it answers does not
(`Store.answers_of_calls`): a read gives the text that was stored last under its key,
unless it has expired; the size counts the keys that give a text. A call to store a
text for longer than the clock can tell breaks off and counts for nothing, whatever was
stored before under its key (`Store.stale_behind_brokenOff`).

Two stores are alike from a time on (`Store.Alike`) if they give the same texts from
then on. Stores that are alike answer alike whatever is asked of them later, and a read
leads to a store that is like the one before it.
-/

namespace ChainReplica

namespace Store

variable {s t : Store} {now later : Nat} {key other : Subscription} {ttl : Option Nat}

/-! ## Entries by key -/

theorem set_of_fits (h : fits now ttl = true) (value : String) : s.set now key value ttl =
    ⟨(key, ⟨value, ttl.map (now + ·)⟩) :: (s.erase key).entries⟩ := if_pos h

theorem set_of_not_fits (h : fits now ttl = false) (value : String) :
    s.set now key value ttl = s := by
  rw [set, if_neg (Bool.eq_false_iff.mp h)]

theorem find?_set_self (value : String) (ttl : Option Nat) : (s.set now key value ttl).find? key =
    if fits now ttl then some ⟨value, ttl.map (now + ·)⟩ else s.find? key := by
  cases hfits : fits now ttl with
  | true =>
      rw [set_of_fits hfits, if_pos rfl]
      simp [find?]
  | false => rw [set_of_not_fits hfits, if_neg Bool.false_ne_true]

theorem find?_erase_of_ne (h : key ≠ other) : (s.erase key).find? other = s.find? other := by
  rw [find?, erase, find?_others _ h.symm, find?]

theorem find?_set_of_ne (h : key ≠ other) (value : String) (ttl : Option Nat) :
    (s.set now key value ttl).find? other = s.find? other := by
  cases hfits : fits now ttl with
  | true =>
      have hhead : (s.set now key value ttl).find? other = (s.erase key).find? other := by
        rw [find?, set_of_fits hfits, List.find?_cons_of_neg (by simpa using h), find?]
      exact hhead.trans (find?_erase_of_ne h)
  | false => rw [set_of_not_fits hfits]

theorem find?_get_self : (s.get now key).2.find? key = (s.find? key).filter (·.live now) := by
  rw [get]
  cases hfind : s.find? key with
  | none => exact hfind
  | some e =>
      cases hlive : e.live now with
      | true => simp [hfind, hlive, Option.filter]
      | false => simp [find?, erase, hlive, Option.filter]

theorem find?_get_of_ne (h : key ≠ other) : (s.get now key).2.find? other = s.find? other := by
  rw [get]
  split
  · rfl
  · split
    · rfl
    · exact find?_erase_of_ne h

/-! ## Texts by key -/

theorem live_iff {e : Entry} :
    e.live now = true ↔ ∀ expiry, e.expires = some expiry → now < expiry := by
  cases hexpires : e.expires <;> simp [Entry.live, hexpires]

/-- What has expired stays expired. -/
theorem live_mono {e : Entry} (h : now ≤ later) (hlive : e.live later = true) :
    e.live now = true :=
  live_iff.mpr fun expiry hexpiry => Nat.lt_of_le_of_lt h (live_iff.mp hlive expiry hexpiry)

/-- A text that is there is read. -/
theorem value?_of_live {text : String} (hfind : (s.find? key).map (·.value) = some text)
    (hlive : (s.find? key).all (·.live now) = true) : s.value? now key = some text := by
  obtain ⟨e, he, rfl⟩ := Option.map_eq_some_iff.mp hfind
  rw [he, Option.all_some] at hlive
  rw [value?, he, Option.filter_some, if_pos hlive, Option.map_some]

theorem value?_congr (h : s.find? key = t.find? key) : s.value? now key = t.value? now key := by
  rw [value?, h, value?]

theorem get_eq_value? (s : Store) (now : Nat) (key : Subscription) :
    (s.get now key).1 = s.value? now key := by
  rw [get, value?]
  cases s.find? key with
  | none => rfl
  | some e => cases hlive : e.live now <;> simp [hlive, Option.filter]

theorem value?_set_self (value : String) (ttl : Option Nat) :
    (s.set now key value ttl).value? later key =
      if fits now ttl then
        ((some (⟨value, ttl.map (now + ·)⟩ : Entry)).filter (·.live later)).map (·.value)
      else s.value? later key := by
  rw [value?, find?_set_self]
  split <;> rfl

theorem value?_set_of_ne (h : key ≠ other) (value : String) (ttl : Option Nat) :
    (s.set now key value ttl).value? later other = s.value? later other :=
  value?_congr (find?_set_of_ne h value ttl)

theorem value?_get_of_ne (h : key ≠ other) :
    (s.get now key).2.value? later other = s.value? later other :=
  value?_congr (find?_get_of_ne h)

/-- What a read removes has expired for good. -/
theorem find?_get_live (h : now ≤ later) :
    ((s.get now key).2.find? other).filter (·.live later) =
      (s.find? other).filter (·.live later) := by
  by_cases hkey : key = other
  · subst hkey
    rw [find?_get_self]
    cases s.find? key with
    | none => rfl
    | some e =>
        cases hlive : e.live later with
        | true => simp [Option.filter, hlive, live_mono h hlive]
        | false => cases hnow : e.live now <;> simp [Option.filter, hlive, hnow]
  · rw [find?_get_of_ne hkey]

/-- A read changes no text. -/
theorem value?_get (h : now ≤ later) :
    (s.get now key).2.value? later other = s.value? later other := by
  rw [value?, find?_get_live h, value?]

/-! ## The size -/

/-- No key has two entries. -/
def Distinct (s : Store) : Prop := (s.entries.map (·.1)).Nodup

theorem distinct_empty : empty.Distinct := List.nodup_nil

theorem Distinct.erase (h : s.Distinct) (key : Subscription) : (s.erase key).Distinct :=
  h.sublist (List.filter_sublist.map _)

theorem Distinct.set (h : s.Distinct) (value : String) (ttl : Option Nat) :
    (s.set now key value ttl).Distinct := by
  rw [Store.set]
  split
  · refine List.nodup_cons.mpr ⟨?_, h.erase key⟩
    simp [Store.erase]
  · exact h

theorem Distinct.get (h : s.Distinct) : (s.get now key).2.Distinct := by
  rw [Store.get]
  split
  · exact h
  · split
    · exact h
    · exact h.erase key

theorem find?_eq_some_iff (h : s.Distinct) {e : Entry} :
    s.find? key = some e ↔ (key, e) ∈ s.entries := by
  rw [find?, Option.map_eq_some_iff]
  constructor
  · rintro ⟨x, hx, rfl⟩
    obtain ⟨hmem, rfl⟩ := (find?_key_eq_some_iff h).mp hx
    exact hmem
  · intro hmem
    exact ⟨(key, e), (find?_key_eq_some_iff h).mpr ⟨hmem, rfl⟩, rfl⟩

theorem value?_ne_none_iff (h : s.Distinct) : s.value? now key ≠ none ↔
    key ∈ (s.entries.filter fun e => e.2.live now).map (·.1) := by
  have hsome : s.value? now key ≠ none ↔ ∃ e, s.find? key = some e ∧ e.live now = true := by
    cases hfind : s.find? key with
    | none => simp [value?, hfind]
    | some e => cases hlive : e.live now <;> simp [value?, hfind, hlive, Option.filter]
  simp only [hsome, find?_eq_some_iff h, List.mem_map, List.mem_filter]
  constructor
  · rintro ⟨e, hmem, hlive⟩
    exact ⟨(key, e), ⟨hmem, hlive⟩, rfl⟩
  · rintro ⟨⟨k, e⟩, ⟨hmem, hlive⟩, rfl⟩
    exact ⟨e, hmem, hlive⟩

/-- The size is the number of keys with a text. -/
theorem size_eq_card (h : s.Distinct) (now : Nat) : ∃ keys : Finset Subscription,
    (∀ key, key ∈ keys ↔ s.value? now key ≠ none) ∧ s.size now = keys.card := by
  have hkeys : ((s.entries.filter fun e => e.2.live now).map (·.1)).Nodup :=
    h.sublist (List.filter_sublist.map _)
  refine ⟨((s.entries.filter fun e => e.2.live now).map (·.1)).toFinset, ?_, ?_⟩
  · intro key
    rw [List.mem_toFinset, value?_ne_none_iff h]
  · rw [List.toFinset_card_of_nodup hkeys, List.length_map, size]

/-! ## Stores that are alike -/

/-- The stores give the same texts from a time on. -/
def Alike (now : Nat) (s t : Store) : Prop :=
  ∀ key later, now ≤ later → s.value? later key = t.value? later key

theorem Alike.mono (h : Alike now s t) (hle : now ≤ later) : Alike later s t :=
  fun key time htime => h key time (Nat.le_trans hle htime)

theorem Alike.size (h : Alike now s t) (hs : s.Distinct) (ht : t.Distinct) :
    s.size now = t.size now := by
  obtain ⟨keys, hkeys, hsize⟩ := size_eq_card hs now
  obtain ⟨keys', hkeys', hsize'⟩ := size_eq_card ht now
  have hsame : keys = keys' := by
    refine Finset.ext fun key => ?_
    rw [hkeys, hkeys', h key now (Nat.le_refl now)]
  rw [hsize, hsize', hsame]

theorem get_alike (s : Store) (now : Nat) (key : Subscription) : Alike now (s.get now key).2 s :=
  fun _ _ hlater => value?_get hlater

/-! ## Calls -/

inductive Call where
  | set (key : Subscription) (value : String) (ttl : Option Nat)
  | get (key : Subscription)

def Call.about : Call → Subscription
  | .set key _ _ => key
  | .get key => key

/-- Whether a call at a time comes to its end. -/
def Call.ends (now : Nat) : Call → Bool
  | .set _ _ ttl => fits now ttl
  | .get _ => true

inductive Answer where
  | stored
  | found (text : Option String)
  | brokenOff
  deriving DecidableEq

def make (s : Store) (now : Nat) : Call → Answer × Store
  | .set key value ttl => (if fits now ttl then .stored else .brokenOff, s.set now key value ttl)
  | .get key => (.found (s.get now key).1, (s.get now key).2)

def after (s : Store) (calls : List (Nat × Call)) : Store :=
  calls.foldl (fun s c => (s.make c.1 c.2).2) s

/-- What calls answer, with the size behind each of them and whether the store is
empty then. -/
def answers (s : Store) : List (Nat × Call) → List (Answer × Nat × Bool)
  | [] => []
  | (now, call) :: rest =>
    let t := (s.make now call).2
    ((s.make now call).1, t.size now, t.isEmpty now) :: t.answers rest

theorem Distinct.make (h : s.Distinct) (now : Nat) (call : Call) :
    (s.make now call).2.Distinct := by
  cases call with
  | set key value ttl => exact h.set value ttl
  | get key => exact h.get

theorem Distinct.after : ∀ {calls : List (Nat × Call)} {s : Store}, s.Distinct →
    (s.after calls).Distinct
  | [], _, h => h
  | (now, call) :: rest, s, h => by
      change (((s.make now call).2).after rest).Distinct
      exact (h.make now call).after

/-- A call about another key changes no text, now or ever. -/
theorem value?_make_of_ne {call : Call} (h : call.about ≠ key) :
    (s.make now call).2.value? later key = s.value? later key := by
  cases call with
  | set k value ttl => exact value?_set_of_ne h value ttl
  | get k => exact value?_get_of_ne h

theorem Alike.make (h : Alike now s t) (call : Call) :
    (s.make now call).1 = (t.make now call).1
      ∧ Alike now (s.make now call).2 (t.make now call).2 := by
  cases call with
  | set key value ttl =>
      refine ⟨rfl, fun other later hlater => ?_⟩
      by_cases hkey : key = other
      · subst hkey
        change (s.set now key value ttl).value? later key =
          (t.set now key value ttl).value? later key
        rw [value?_set_self, value?_set_self, h key later hlater]
      · exact ((value?_set_of_ne hkey value ttl).trans (h other later hlater)).trans
          (value?_set_of_ne hkey value ttl).symm
  | get key =>
      refine ⟨congrArg Answer.found ?_, fun other later hlater => ?_⟩
      · exact ((get_eq_value? s now key).trans (h key now (Nat.le_refl now))).trans
          (get_eq_value? t now key).symm
      · exact ((value?_get hlater).trans (h other later hlater)).trans (value?_get hlater).symm

/-- Whatever is asked later is answered alike. -/
theorem Alike.answers : ∀ {calls : List (Nat × Call)} {now : Nat} {s t : Store}, Alike now s t →
    s.Distinct → t.Distinct → (calls.map (·.1)).Pairwise (· ≤ ·) → (∀ c ∈ calls, now ≤ c.1) →
      s.answers calls = t.answers calls
  | [], _, _, _, _, _, _, _, _ => rfl
  | (time, call) :: rest, now, s, t, h, hs, ht, hordered, hlater => by
      obtain ⟨hnow, -⟩ := List.forall_mem_cons.mp hlater
      obtain ⟨hfirst, hordered⟩ := List.pairwise_cons.mp hordered
      obtain ⟨hanswer, hafter⟩ := (h.mono hnow).make call
      have hsize := hafter.size (hs.make time call) (ht.make time call)
      have hrest := hafter.answers (hs.make time call) (ht.make time call) hordered
        fun c hc => hfirst c.1 (List.mem_map_of_mem hc)
      rw [Store.answers, Store.answers, hanswer, hrest, isEmpty, isEmpty, hsize]

/-! ## The last text -/

theorem Call.ends_iff {call : Call} : call.ends now = true ↔
    ∀ key value span, call = .set key value (some span) → now + span < horizon := by
  cases call with
  | set key value ttl => cases ttl <;> simp [Call.ends, fits]
  | get key => simp [Call.ends]

/-- A call that breaks off leaves the store as it was. -/
theorem make_of_not_ends {call : Call} (h : call.ends now = false) : (s.make now call).2 = s := by
  cases call with
  | set key value ttl => exact set_of_not_fits h value
  | get key => cases h

/-- Without the calls that break off the store is the same in the end. -/
theorem after_filter_ends (calls : List (Nat × Call)) (s : Store) :
    s.after (calls.filter fun c => c.2.ends c.1) = s.after calls := by
  induction calls generalizing s with
  | nil => rfl
  | cons c rest ih =>
      cases hends : c.2.ends c.1 with
      | true =>
          rw [List.filter_cons, if_pos hends]
          exact ih (s.make c.1 c.2).2
      | false =>
          rw [List.filter_cons, if_neg (Bool.eq_false_iff.mp hends), ih]
          change s.after rest = (s.make c.1 c.2).2.after rest
          rw [make_of_not_ends hends]

/-- What a call stores under a key. -/
def Call.stored? (key : Subscription) : Nat × Call → Option Entry
  | (now, .set k value ttl) => if k = key then some ⟨value, ttl.map (now + ·)⟩ else none
  | (_, .get _) => none

/-- What calls have stored under a key last. -/
def lastStored? (key : Subscription) (calls : List (Nat × Call)) : Option Entry :=
  (calls.filterMap (Call.stored? key)).getLast?

theorem lastStored?_cons (c : Nat × Call) (calls : List (Nat × Call)) :
    lastStored? key (c :: calls) = (lastStored? key calls).or (Call.stored? key c) := by
  cases hstored : Call.stored? key c with
  | none => rw [lastStored?, List.filterMap_cons_none hstored, Option.or_none, lastStored?]
  | some e =>
      rw [lastStored?, List.filterMap_cons_some hstored, List.getLast?_cons, lastStored?]
      cases (calls.filterMap (Call.stored? key)).getLast? <;> rfl

theorem find?_make (h : now ≤ later) {call : Call} (hends : call.ends now = true) :
    ((s.make now call).2.find? key).filter (·.live later) =
      ((Call.stored? key (now, call)).or (s.find? key)).filter (·.live later) := by
  cases call with
  | set k value ttl =>
      change fits now ttl = true at hends
      by_cases hkey : k = key
      · subst hkey
        rw [make, find?_set_self, if_pos hends, Call.stored?, if_pos rfl, Option.some_or]
      · rw [make, find?_set_of_ne hkey, Call.stored?, if_neg hkey, Option.none_or]
  | get k => rw [make, find?_get_live h, Call.stored?, Option.none_or]

/-- What is left of the text that was stored last, or else of one that was there
before. -/
theorem find?_after {calls : List (Nat × Call)}
    (h : ∀ c ∈ calls, c.1 ≤ later ∧ c.2.ends c.1 = true) (s : Store) :
    ((s.after calls).find? key).filter (·.live later) =
      ((lastStored? key calls).or (s.find? key)).filter (·.live later) := by
  induction calls generalizing s with
  | nil => rfl
  | cons c rest ih =>
      obtain ⟨⟨hpast, hends⟩, hrest⟩ := List.forall_mem_cons.mp h
      rw [lastStored?_cons]
      change (((s.make c.1 c.2).2.after rest).find? key).filter _ = _
      rw [ih hrest]
      cases lastStored? key rest with
      | none => exact find?_make hpast hends
      | some e => rfl

/-- A store answers as if nothing was ever removed, and as if the calls that broke off
had not been made. -/
theorem answers_of_calls (calls : List (Nat × Call)) (now : Nat) (hpast : ∀ c ∈ calls, c.1 ≤ now) :
    let s := empty.after calls
    let ended := calls.filter fun c => c.2.ends c.1
    s = empty.after ended
      ∧ (∀ c, c ∈ ended ↔ c ∈ calls
        ∧ ∀ key value span, c.2 = .set key value (some span) → c.1 + span < horizon)
      ∧ (∀ key text, (s.get now key).1 = some text ↔ ∃ e, lastStored? key ended = some e
        ∧ e.value = text ∧ ∀ expiry, e.expires = some expiry → now < expiry)
      ∧ (∃ keys : Finset Subscription,
        (∀ key, key ∈ keys ↔ (s.get now key).1 ≠ none) ∧ s.size now = keys.card)
      ∧ (s.isEmpty now = true ↔ ∀ key, (s.get now key).1 = none)
      ∧ (∀ key rest, (rest.map (·.1)).Pairwise (· ≤ ·) → (∀ c ∈ rest, now ≤ c.1) →
        (s.get now key).2.answers rest = s.answers rest)
      ∧ ∀ call key, call.about ≠ key → ∀ later,
        ((s.make now call).2.get later key).1 = (s.get later key).1 := by
  intro s ended
  have hdistinct : s.Distinct := distinct_empty.after
  have hended : s = empty.after ended := (after_filter_ends calls empty).symm
  refine ⟨hended, fun c => ?_, ?_, ?_, ?_, ?_, ?_⟩
  · rw [List.mem_filter, Call.ends_iff]
  · intro key text
    have hnone : empty.find? key = none := rfl
    have hall : ∀ c ∈ ended, c.1 ≤ now ∧ c.2.ends c.1 = true := fun c hc =>
      (List.mem_filter.mp hc).imp_left (hpast c)
    rw [get_eq_value?, value?, hended, find?_after hall, hnone, Option.or_none,
      Option.map_eq_some_iff]
    simp only [Option.filter_eq_some_iff, live_iff, and_assoc]
    constructor
    · rintro ⟨e, hlast, hlive, rfl⟩
      exact ⟨e, hlast, rfl, hlive⟩
    · rintro ⟨e, hlast, rfl, hlive⟩
      exact ⟨e, hlast, hlive, rfl⟩
  · simp only [get_eq_value?]
    exact size_eq_card hdistinct now
  · obtain ⟨keys, hkeys, hsize⟩ := size_eq_card hdistinct now
    rw [isEmpty, hsize, beq_iff_eq, Finset.card_eq_zero, Finset.eq_empty_iff_forall_notMem]
    simp only [get_eq_value?, hkeys, Classical.not_not]
  · intro key rest hordered hlater
    exact (get_alike s now key).answers hdistinct.get hdistinct hordered hlater
  · intro call key hkey later
    rw [get_eq_value?, get_eq_value?, value?_make_of_ne hkey]

/-- A text that expired and was removed, one in its place for good, a call that would
have replaced it but breaks off, and a text under another key that expires at this very
moment. -/
theorem answers_of_calls_expired :
    let a : Subscription := ⟨"g", "a"⟩
    let b : Subscription := ⟨"g", "b"⟩
    let calls : List (Nat × Call) := [(0, .set a "x" (some 10)), (3, .set b "y" (some 14)),
      (10, .get a), (12, .set a "z" none), (15, .set a "v" (some horizon))]
    let s := empty.after calls
    let rest : List (Nat × Call) := [(17, .get b), (20, .set b "w" (some 5)), (24, .get b)]
    (∀ c ∈ calls, c.1 ≤ 17) ∧ empty.answers calls =
        [(.stored, 1, false), (.stored, 2, false), (.found none, 1, false), (.stored, 2, false),
          (.brokenOff, 2, false)]
      ∧ (s.get 17 a).1 = some "z" ∧ (s.get 17 b).1 = none ∧ s.size 17 = 1
      ∧ s.isEmpty 17 = false ∧ (s.get 17 b).2 ≠ s
      ∧ (s.get 17 b).2.answers rest = s.answers rest
      ∧ ((s.make 17 (.set b "w" none)).2.get 30 a).1 = some "z" := by
  intro a b calls s rest
  have hpast : ∀ c ∈ calls, c.1 ≤ 17 := by decide
  have hended : (calls.filter fun c => c.2.ends c.1) = calls.take 4 := by
    simp [calls, Call.ends, fits, horizon]
  obtain ⟨-, -, htexts, -, hempty, hremoved, hothers⟩ := answers_of_calls calls 17 hpast
  rw [hended] at htexts
  have ha : (s.get 17 a).1 = some "z" := (htexts a "z").mpr ⟨⟨"z", none⟩, rfl, rfl, nofun⟩
  have hb : (s.get 17 b).1 = none := by
    refine Option.eq_none_iff_forall_ne_some.mpr fun text htext => ?_
    obtain ⟨e, hlast, -, hlive⟩ := (htexts b text).mp htext
    obtain rfl : (⟨"y", some 17⟩ : Entry) = e := Option.some.inj hlast
    exact Nat.lt_irrefl 17 (hlive 17 rfl)
  refine ⟨hpast, by decide, ha, hb, by decide, ?_, by decide, ?_, ?_⟩
  · refine Bool.eq_false_iff.mpr fun h => ?_
    rw [hempty.mp h a] at ha
    cases ha
  · exact hremoved b rest (by decide) (by decide)
  · rw [hothers (.set b "w" none) a (by decide) 30]
    decide

/-- A text is to replace another one for the longest span of seconds that 64 bits can
tell. It would not have expired, and the other one is still read. -/
theorem stale_behind_brokenOff :
    let key : Subscription := ⟨"g", "a"⟩
    let span := 18446744073709551615 * 1000
    let calls : List (Nat × Call) := [(0, .set key "old" none), (1, .set key "new" (some span))]
    (∀ c ∈ calls, c.1 ≤ 2) ∧ lastStored? key calls = some ⟨"new", some (1 + span)⟩
      ∧ 2 < 1 + span ∧ ((empty.after calls).get 2 key).1 = some "old" := by
  decide

end Store

end ChainReplica
