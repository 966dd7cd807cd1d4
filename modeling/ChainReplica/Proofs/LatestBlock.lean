import Mathlib.Data.List.DropRight
import Mathlib.Data.Nat.Digits.Defs
import ChainReplica.Proofs.SharedRecord

/-!
# The newest processed block of a group

The block that the masters of a group have processed is a decimal text under a name
set aside in the cache. It is stored for good, so it stays under any run that stores
no text in its place (`Fleet.Permanent.after`): time may pass, members may act, and
writes under other names or in other groups may run, in any order.

Whoever reads it makes a number of whatever text is there. White space at either end
does not count (`Trimmed`); what is left has to be a decimal numeral with an optional
plus sign (`Numeral.Unsigned`), of a number of 64 bits. `Fleet.latest_register` puts
the two together.
-/

namespace ChainReplica

variable {S : Type}

/-! ## Trimmed texts -/

/-- What is left of a text without what `drop` accepts at either end. -/
structure Trimmed (drop : Char → Bool) (cs body : List Char) : Prop where
  parts : ∃ front back, cs = front ++ body ++ back ∧ ∀ c ∈ front ++ back, drop c = true
  first : ∀ c rest, body = c :: rest → drop c = false
  last : ∀ c rest, body = rest ++ [c] → drop c = false

section Trimming

variable {drop : Char → Bool} {cs body : List Char}

theorem trimWhere_eq_rdropWhile (drop : Char → Bool) (cs : List Char) :
    trimWhere drop cs = (cs.dropWhile drop).rdropWhile drop := rfl

theorem trimmed_trimWhere (drop : Char → Bool) (cs : List Char) :
    Trimmed drop cs (trimWhere drop cs) := by
  rw [trimWhere_eq_rdropWhile]
  refine ⟨⟨cs.takeWhile drop, (cs.dropWhile drop).rtakeWhile drop, ?_, ?_⟩, ?_, ?_⟩
  · rw [List.append_assoc, List.rdropWhile_append_rtakeWhile, List.takeWhile_append_dropWhile]
  · refine List.forall_mem_append.mpr ⟨fun c hc => ?_, fun c hc => ?_⟩
    · exact List.mem_takeWhile_imp hc
    · exact List.mem_rtakeWhile_imp hc
  · -- What is left begins like the text without its front.
    intro c rest hbody
    obtain ⟨back, hback⟩ := List.rdropWhile_prefix drop (cs.dropWhile drop)
    have hfirst := List.head?_dropWhile_not drop cs
    rw [← hback, hbody] at hfirst
    exact hfirst
  · intro c rest hbody
    have hlast := List.rdropWhile_last_not drop (cs.dropWhile drop)
    simpa [hbody] using hlast

theorem rdropWhile_append_of_pos (cs : List Char) {back : List Char}
    (h : ∀ c ∈ back, drop c = true) : (cs ++ back).rdropWhile drop = cs.rdropWhile drop := by
  rw [List.rdropWhile, List.reverse_append,
    List.dropWhile_append_of_pos fun c hc => h c (List.mem_reverse.mp hc), List.rdropWhile]

theorem Trimmed.trimWhere_eq (h : Trimmed drop cs body) : trimWhere drop cs = body := by
  obtain ⟨⟨front, back, rfl, hdropped⟩, hfirst, hlast⟩ := h
  obtain ⟨hfront, hback⟩ := List.forall_mem_append.mp hdropped
  rw [trimWhere_eq_rdropWhile, List.append_assoc, List.dropWhile_append_of_pos hfront]
  cases body with
  | nil => rw [List.nil_append, List.dropWhile_eq_nil_iff.mpr hback, List.rdropWhile_nil]
  | cons c rest =>
      have hkept : (c :: rest ++ back).dropWhile drop = c :: rest ++ back :=
        List.dropWhile_cons_of_neg (by simp [hfirst c rest rfl])
      rw [hkept, rdropWhile_append_of_pos _ hback, List.rdropWhile_eq_self_iff]
      intro hne
      exact Bool.eq_false_iff.mp (hlast _ _ (List.dropLast_append_getLast hne).symm)

theorem trimWhere_eq_iff : trimWhere drop cs = body ↔ Trimmed drop cs body :=
  ⟨fun h => h ▸ trimmed_trimWhere drop cs, Trimmed.trimWhere_eq⟩

end Trimming

/-! ## Numerals of counts -/

namespace Numeral

/-- Decimal digits of the number, at least one. -/
def Denotes (digits : List Char) (n : Nat) : Prop :=
  digits ≠ [] ∧ (∀ c ∈ digits, c.isDigit = true)
    ∧ Nat.ofDigits 10 (digits.reverse.map fun c => c.toNat - '0'.toNat) = n

/-- Decimal digits of the number, with a plus sign in front of them or without. -/
def Unsigned (cs : List Char) (n : Nat) : Prop :=
  ∃ digits, (cs = digits ∨ cs = '+' :: digits) ∧ Denotes digits n

theorem value_eq_ofDigits (base : Nat) (ds : List Nat) :
    value base ds = Nat.ofDigits base ds.reverse := by
  rw [value, Nat.ofDigits_eq_foldr, List.foldr_reverse]
  congr 1
  funext acc d
  rw [Nat.cast_id, Nat.mul_comm, Nat.add_comm]

theorem digitBelow?_ten_eq_some_iff {c : Char} {d : Nat} :
    digitBelow? 10 c = some d ↔ c.isDigit = true ∧ c.toNat - '0'.toNat = d := by
  have hdigit : c.isDigit = true ↔ '0' ≤ c ∧ c ≤ '9' := by
    simp [Char.isDigit, Char.le_def]
  rw [digitBelow?, Option.filter_eq_some_iff, decide_eq_true_eq, hdigit]
  constructor
  · rintro ⟨hvalue, hsmall⟩
    rw [digitValue?] at hvalue
    split at hvalue
    · rename_i hc
      exact ⟨hc, Option.some.inj hvalue⟩
    · -- Letters stand for ten and more.
      split at hvalue
      · have hletter := Option.some.inj hvalue
        omega
      · split at hvalue
        · have hletter := Option.some.inj hvalue
          omega
        · cases hvalue
  · rintro ⟨hc, rfl⟩
    have hnine : c.toNat ≤ '9'.toNat := UInt32.le_iff_toNat_le.mp (Char.le_def.mp hc.2)
    have hlast : '9'.toNat = '0'.toNat + 9 := rfl
    refine ⟨by rw [digitValue?, if_pos hc], ?_⟩
    omega

theorem mapM_digitBelow?_eq_some_iff {cs : List Char} {ds : List Nat} :
    cs.mapM (digitBelow? 10) = some ds ↔
      (∀ c ∈ cs, c.isDigit = true) ∧ cs.map (fun c => c.toNat - '0'.toNat) = ds := by
  induction cs generalizing ds with
  | nil => simp
  | cons c rest ih =>
      simp only [List.mapM_cons, Option.bind_eq_bind, Option.bind_eq_some_iff, Option.pure_def,
        Option.some.injEq, digitBelow?_ten_eq_some_iff, ih, List.forall_mem_cons, List.map_cons]
      constructor
      · rintro ⟨d, ⟨hc, rfl⟩, ds', ⟨hrest, rfl⟩, rfl⟩
        exact ⟨⟨hc, hrest⟩, rfl⟩
      · rintro ⟨⟨hc, hrest⟩, rfl⟩
        exact ⟨_, ⟨hc, rfl⟩, _, ⟨hrest, rfl⟩, rfl⟩

theorem read?_ten_eq_some_iff {cs : List Char} {n : Nat} :
    read? 10 cs = some n ↔ (∀ c ∈ cs, c.isDigit = true)
      ∧ Nat.ofDigits 10 (cs.reverse.map fun c => c.toNat - '0'.toNat) = n := by
  simp only [read?, Option.map_eq_some_iff, mapM_digitBelow?_eq_some_iff, value_eq_ofDigits]
  constructor
  · rintro ⟨ds, ⟨hdigits, rfl⟩, rfl⟩
    exact ⟨hdigits, by rw [List.map_reverse]⟩
  · rintro ⟨hdigits, rfl⟩
    exact ⟨_, ⟨hdigits, rfl⟩, by rw [List.map_reverse]⟩

theorem unsigned_plus {digits : List Char} {n : Nat} :
    Unsigned ('+' :: digits) n ↔ Denotes digits n := by
  constructor
  · rintro ⟨ds, rfl | hsign, hdenotes⟩
    · exact absurd (hdenotes.2.1 '+' List.mem_cons_self) (by decide)
    · exact (List.cons.inj hsign).2 ▸ hdenotes
  · exact fun hdenotes => ⟨digits, Or.inr rfl, hdenotes⟩

theorem unsigned_of_no_plus {cs : List Char} {n : Nat} (h : ∀ rest, cs ≠ '+' :: rest) :
    Unsigned cs n ↔ Denotes cs n := by
  constructor
  · rintro ⟨ds, rfl | hsign, hdenotes⟩
    · exact hdenotes
    · exact absurd hsign (h ds)
  · exact fun hdenotes => ⟨cs, Or.inl rfl, hdenotes⟩

/-- A count is read if and only if it is written as a numeral of a number that fits. -/
theorem readCount?_eq_some_iff {s : String} {n : Nat} :
    readCount? s = some n ↔ Unsigned s.toList n ∧ n < countLimit := by
  have hbody : ∀ body : List Char,
      (if body.isEmpty then none else (read? 10 body).filter (· < countLimit)) = some n ↔
        Denotes body n ∧ n < countLimit := by
    intro body
    cases body with
    | nil => simp [Denotes]
    | cons c rest => simp [Denotes, Option.filter_eq_some_iff, read?_ten_eq_some_iff]
  rw [readCount?]
  split
  · rename_i rest hsign
    rw [hsign, unsigned_plus]
    exact hbody rest
  · rename_i hsign
    rw [unsigned_of_no_plus hsign]
    exact hbody s.toList

end Numeral

theorem Store.readLatest?_eq_some_iff {text : String} {n : Nat} :
    readLatest? text = some n ↔ ∃ body, Trimmed isBlank text.toList body
      ∧ Numeral.Unsigned body n ∧ n < Numeral.countLimit := by
  rw [readLatest?, Numeral.readCount?_eq_some_iff, trimBlank, String.toList_ofList]
  constructor
  · rintro ⟨hnumeral, hfits⟩
    exact ⟨_, trimmed_trimWhere isBlank text.toList, hnumeral, hfits⟩
  · rintro ⟨body, htrimmed, hnumeral, hfits⟩
    rw [htrimmed.trimWhere_eq]
    exact ⟨hnumeral, hfits⟩

example : Store.readLatest? "\u3000+0042\n" = some 42 ∧ Store.readLatest? "4 2" = none
    ∧ Store.readLatest? "+" = none ∧ Store.readLatest? "18446744073709551616" = none := by
  decide +kernel

/-! ## Texts that stay -/

namespace Fleet

/-- A text is stored under a key and does not expire. -/
def Permanent (f : Fleet S) (key : Subscription) (text : String) : Prop :=
  f.cache.find? key = some ⟨text, none⟩

/-- A text is written under a key: by a command, or because the oldest queued write
runs. Members only start writes. -/
def Writes (f : Fleet S) (key : Subscription) : Happening S → Prop
  | .write => ∃ w ∈ f.queued.head?, w.text? key ≠ none
  | e => e.Writes key

/-- What is written along a run is written under other keys. -/
def WritesElsewhere (f : Fleet S) (key : Subscription) : List (Happening S) → Prop
  | [] => True
  | e :: rest => ¬f.Writes key e ∧ (f.happen e).WritesElsewhere key rest

variable {f : Fleet S} {j : Nat} {key : Subscription} {s : Subscriber S} {text : String}

theorem carry_cache (e : Effect S) : (carry j s f e).cache = f.cache := by
  cases e with
  | register block =>
      rw [carry, register]
      split <;> rfl
  | heal block =>
      rw [carry, submit]
      split <;> rfl
  | _ => rfl

theorem foldl_carry_cache : ∀ (effects : List (Effect S)) (f : Fleet S),
    (effects.foldl (carry j s) f).cache = f.cache
  | [], _ => rfl
  | e :: rest, f => by rw [List.foldl_cons, foldl_carry_cache rest, carry_cache]

theorem commit_cache (effects : List (Effect S)) : (f.commit j s effects).cache = f.cache :=
  foldl_carry_cache effects _

namespace Permanent

theorem value? (h : f.Permanent key text) : f.cache.value? f.calendar key = some text := by
  rw [Store.value?, h]
  rfl

theorem write (h : f.Permanent key text) {w : CacheWrite} (hw : w.text? key = none) :
    (f.write w).2.Permanent key text := by
  cases w with
  | publish topic payload => exact h
  | set k value ttl =>
      have hne : k ≠ key := by
        rintro rfl
        simp [CacheWrite.text?] at hw
      rw [Fleet.write]
      split
      · exact h
      · exact (Store.find?_set_of_ne hne value ttl).trans h

theorem runOldest (h : f.Permanent key text) (hwrites : ¬f.Writes key .write) :
    f.runOldest.Permanent key text := by
  rw [Fleet.runOldest]
  split
  · exact h
  · rename_i w rest hqueued
    have hw : w.text? key = none := by
      by_contra hne
      exact hwrites ⟨w, by rw [hqueued]; rfl, hne⟩
    exact write (f := { f with queued := rest }) h hw

/-- A read removes what has expired, and this does not expire. -/
theorem get (h : f.Permanent key text) (k : Subscription) :
    (f.obey (.cacheGet k)).2.Permanent key text := by
  change (f.cache.get f.calendar k).2.find? key = _
  by_cases hkey : k = key
  · subst hkey
    rw [Store.find?_get_self, h]
    rfl
  · exact (Store.find?_get_of_ne hkey).trans h

theorem happen (h : f.Permanent key text) {e : Happening S} (hwrites : ¬f.Writes key e) :
    (f.happen e).Permanent key text := by
  cases hacting : f.acting? e with
  | some acting =>
      -- Who acts leaves the cache alone: what it writes is queued.
      obtain ⟨i, a⟩ := acting
      obtain ⟨s, -, hhappen⟩ := happen_of_acting hacting
      rw [hhappen, Permanent, commit_cache]
      exact h
  | none =>
      cases e with
      | age span => exact h
      | write => exact h.runOldest hwrites
      | attempt job => rwa [Fleet.happen, attempt_of_none hacting]
      | refresh r => rwa [Fleet.happen, endRefresh, Option.map_eq_none_iff.mp hacting]
      | obey command =>
          cases command with
          | member j command => rwa [Fleet.happen, member_of_idle hacting]
          | runJob index => rwa [Fleet.happen, runJob_of_idle hacting]
          | cacheSet k value ttl => exact (Store.find?_set_of_ne hwrites value ttl).trans h
          | cacheGet k => exact h.get k
          | publishLatest group block =>
              exact h.write (w := .set (Store.latestKey group) _ _) (if_neg hwrites)
          | _ => exact h

theorem after : ∀ {run : List (Happening S)} {f : Fleet S}, f.Permanent key text →
    f.WritesElsewhere key run → (f.after run).Permanent key text
  | [], _, h, _ => h
  | _ :: _, _, h, ⟨hwrites, hrest⟩ => (h.happen hwrites).after hrest

end Permanent

/-! ## The newest processed block -/

/-- A block that is published is stored for good. -/
theorem publishLatest_spec (hworks : f.outage.set = false) (group : String) (n : Nat) :
    (f.obey (.publishLatest group n)).1 = .outcome (.ok ())
      ∧ (f.obey (.publishLatest group n)).2.Permanent (Store.latestKey group)
        (Store.latestText n) := by
  rw [obey, Fleet.write, hworks]
  exact ⟨rfl, (Store.find?_set_self _ none).trans (if_pos rfl)⟩

theorem processed_eq_some_iff {group : String} {n : Nat} :
    f.processed group = some n ↔ f.outage.get = false ∧ ∃ text,
      f.cache.value? f.calendar (Store.latestKey group) = some text
        ∧ Store.readLatest? text = some n := by
  rw [processed, lookup]
  cases f.outage.get with
  | true => simp
  | false => cases f.cache.value? f.calendar (Store.latestKey group) <;> simp

/-- The newest processed block of a group, published and fetched. A block of 64 bits
that is published while writes work is fetched later, as long as reads work, whatever
was done in between and whatever was written under other names or in other groups.
In any state, a block is fetched if and only if reads work and there is a text that is,
without white space at either end, a decimal numeral of a number of 64 bits with an
optional plus sign. -/
theorem latest_register (f : Fleet S) (group : String) :
    (∀ n < 2 ^ 64, f.outage.set = false →
        (f.obey (.publishLatest group n)).1 = .outcome (.ok ())
          ∧ ∀ run, (f.obey (.publishLatest group n)).2.WritesElsewhere (Store.latestKey group) run →
            let later := (f.obey (.publishLatest group n)).2.after run
            later.outage.get = false →
              (later.obey (.fetchLatest group)).1 = .number (some n))
      ∧ ∃ found, (f.obey (.fetchLatest group)).1 = .number found
        ∧ ∀ n, found = some n ↔ f.outage.get = false ∧ ∃ text body,
          f.cache.value? f.calendar (Store.latestKey group) = some text
            ∧ Trimmed isBlank text.toList body ∧ Numeral.Unsigned body n ∧ n < 2 ^ 64 := by
  have hlimit : 2 ^ 64 = Numeral.countLimit := rfl
  rw [hlimit]
  refine ⟨fun n hn hworks => ?_, f.processed group, rfl, fun n => ?_⟩
  · obtain ⟨hreply, hstored⟩ := publishLatest_spec hworks group n
    refine ⟨hreply, ?_⟩
    intro run hrun later hreads
    have hprocessed : later.processed group = some n := processed_eq_some_iff.mpr
      ⟨hreads, _, (hstored.after hrun).value?, Store.readLatest?_latestText hn⟩
    exact congrArg Reply.number hprocessed
  · simp only [processed_eq_some_iff, Store.readLatest?_eq_some_iff, exists_and_left]

/-- The largest block of 64 bits is published. Then the snapshot of a subscriber of the
group is written, the block of another group and a text that expires, and writes begin
to fail. In another run a text with white space and zeros is there. -/
theorem latest_register_shared :
    let f := (counting.obey (.publishLatest "g" (2 ^ 64 - 1))).2
    let run : List (Happening Counter) := [.obey (.member 0 (.establish 10 .usual)), .write,
      .obey (.publishLatest "h" 7), .obey (.cacheSet ⟨"g", "q"⟩ "7" (some 60)), .age 61,
      .obey (.cacheGet (Store.latestKey "g")), .obey (.fail ⟨false, true, false⟩)]
    let other := (counting.obey (.cacheSet (Store.latestKey "g") "\u3000+0042\n" none)).2
    counting.outage.set = false ∧ f.WritesElsewhere (Store.latestKey "g") run
      ∧ (f.after run).cache.value? 61 ⟨"g", "p"⟩ ≠ none ∧ (f.after run).outage.get = false
      ∧ ((f.after run).obey (.fetchLatest "g")).1 = .number (some (2 ^ 64 - 1))
      ∧ (other.obey (.fetchLatest "g")).1 = .number (some 42) := by
  intro f run other
  have hrun : f.WritesElsewhere (Store.latestKey "g") run := by
    refine ⟨id, ?_, ?_, ?_, id, id, id, trivial⟩
    · rintro ⟨w, hw, hunder⟩
      cases hw
      exact hunder (by decide)
    · exact (show Store.latestKey "h" ≠ Store.latestKey "g" by decide)
    · exact (show (⟨"g", "q"⟩ : Subscription) ≠ Store.latestKey "g" by decide)
  obtain ⟨found, hfound, hread⟩ := (latest_register other "g").2
  have hsome : found = some 42 := by
    refine (hread 42).mpr ⟨rfl, _, ['+', '0', '0', '4', '2'], rfl, ?_, ?_, by omega⟩
    · exact trimWhere_eq_iff.mp (by decide)
    · exact ⟨['0', '0', '4', '2'], Or.inr rfl, by decide, List.all_eq_true.mp rfl, rfl⟩
  refine ⟨rfl, hrun, by decide, rfl, ?_, ?_⟩
  · exact ((latest_register counting "g").1 (2 ^ 64 - 1) (by omega) rfl).2 run hrun rfl
  · rw [hfound, hsome]

end Fleet

end ChainReplica
