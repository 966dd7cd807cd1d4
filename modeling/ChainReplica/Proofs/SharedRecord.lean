import ChainReplica.Proofs.Happenings
import ChainReplica.Proofs.ReadBack
import ChainReplica.Proofs.StoredTexts

/-!
# The published record of a master

A master publishes by writes that run later. `Fleet.eventual` is the text under a
key once all queued writes have run; it is what the invariant speaks of. It
changes only when a member publishes under the key, or when a command writes
there: running a queued write does not change it, nor does a read, as long as
nothing expires (`Fleet.eventual_runOldest`, `Fleet.eventual_of_idle`).

While a master is the only one that publishes under its subscription, the text
there is eventually that of its snapshot and its block (`Fleet.Reflects`), after
any run. Once its writes have run, that is what a reader finds
(`Fleet.record_after`).
-/

namespace ChainReplica

variable {S : Type}

/-! ## What is eventually under a key -/

/-- The text that a write puts under a key. -/
def CacheWrite.text? (key : Subscription) : CacheWrite → Option String
  | .set k value _ => if k = key then some value else none
  | .publish _ _ => none

/-- Whether a write that puts a text under a key comes to its end at a time. -/
def CacheWrite.fits (key : Subscription) (now : Nat) : CacheWrite → Bool
  | .set k _ ttl => k != key || Store.fits now ttl
  | .publish _ _ => true

def Subscriber.textOf (s : Subscriber S) (e : Nat × S) : String :=
  Record.encode s.venue.codec ⟨e.1, e.2⟩

/-- A command that writes under a key itself. -/
def Happening.Writes (key : Subscription) : Happening S → Prop
  | .obey (.cacheSet k _ _) => k = key
  | .obey (.publishLatest group _) => Store.latestKey group = key
  | _ => False

namespace Fleet

/-- The text under a key once all queued writes have run. -/
def eventual (f : Fleet S) (key : Subscription) : Option String :=
  f.queued.foldl (fun found w => (w.text? key).or found) ((f.cache.find? key).map (·.value))

/-- Whether every write under a key has run. -/
def Written (f : Fleet S) (key : Subscription) : Prop := ∀ w ∈ f.queued, w.text? key = none

/-- Writes work, and what is stored under the key has not expired. -/
structure Lasting (f : Fleet S) (key : Subscription) : Prop where
  works : f.outage.set = false
  fits : f.queued.head?.all (·.fits key f.calendar) = true
  live : (f.cache.find? key).all (·.live f.calendar) = true

variable {f : Fleet S} {i j : Nat} {key : Subscription} {s : Subscriber S}

theorem foldl_text_of_none {found : Option String} : ∀ {writes : List CacheWrite},
    (∀ w ∈ writes, w.text? key = none) →
      writes.foldl (fun found w => (w.text? key).or found) found = found
  | [], _ => rfl
  | w :: rest, h => by
      obtain ⟨hw, hrest⟩ := List.forall_mem_cons.mp h
      rw [List.foldl_cons, hw, Option.none_or, foldl_text_of_none hrest]

theorem eventual_of_written (h : f.Written key) :
    f.eventual key = (f.cache.find? key).map (·.value) := foldl_text_of_none h

/-- The text under a key is read, when every write under it has run. -/
theorem value?_of_written (h : f.Written key) (hlasting : f.Lasting key) {text : String}
    (htext : f.eventual key = some text) : f.cache.value? f.calendar key = some text :=
  Store.value?_of_live (eventual_of_written h ▸ htext) hlasting.live

theorem eventual_congr {g : Fleet S} (hqueued : g.queued = f.queued)
    (hfind : g.cache.find? key = f.cache.find? key) : g.eventual key = f.eventual key := by
  rw [eventual, hqueued, hfind, eventual]

theorem eventual_enqueue (w : CacheWrite) :
    (f.enqueue w).eventual key = (w.text? key).or (f.eventual key) := by
  rw [eventual, enqueue, List.foldl_append]
  rfl

theorem find?_write (hworks : f.outage.set = false) {w : CacheWrite}
    (hfits : w.fits key f.calendar = true) : ((f.write w).2.cache.find? key).map (·.value) =
      (w.text? key).or ((f.cache.find? key).map (·.value)) := by
  cases w with
  | publish topic payload => rfl
  | set k value ttl =>
      simp only [write, hworks, Bool.false_eq_true, if_false, CacheWrite.text?]
      by_cases hkey : k = key
      · subst hkey
        have hends : Store.fits f.calendar ttl = true := by simpa [CacheWrite.fits] using hfits
        rw [Store.find?_set_self, if_pos hends, if_pos rfl]
        rfl
      · rw [Store.find?_set_of_ne hkey, if_neg hkey, Option.none_or]

/-- Running a write does not change what is eventually there. -/
theorem eventual_runOldest (hlasting : f.Lasting key) :
    f.runOldest.eventual key = f.eventual key := by
  rw [runOldest]
  split
  · rfl
  · rename_i w rest hqueued
    have hfits := hlasting.fits
    rw [hqueued, List.head?_cons, Option.all_some] at hfits
    have hfind := find?_write (f := { f with queued := rest }) hlasting.works hfits
    rw [eventual, (write_frame w).2, hfind, eventual, hqueued, List.foldl_cons]

/-! ## Publishing -/

/-- A member publishes under a key. -/
def Publishes (f : Fleet S) (key : Subscription) (i : Nat) : Prop :=
  ∃ s, f.subscriber? i = some s ∧ s.id = key ∧ s.shares = true

theorem eventual_carry_of_none {e : Effect S} (h : e.stored? = none) :
    (carry j s f e).eventual key = f.eventual key := by
  cases e with
  | store block x => cases h
  | announce block => exact eventual_enqueue _
  | register block =>
      rw [carry, register]
      split <;> rfl
  | heal block =>
      rw [carry, submit]
      split <;> rfl
  | _ => rfl

theorem eventual_carry_of_some {e : Effect S} {written : Nat × S} (h : e.stored? = some written) :
    (carry j s f e).eventual key =
      if s.id = key then some (s.textOf written) else f.eventual key := by
  cases e with
  | store block x =>
      cases h
      rw [carry, eventual_enqueue, CacheWrite.text?]
      split <;> rfl
  | _ => cases h

/-- Effects put the last snapshot that they publish under the subscription. -/
theorem eventual_effects (j : Nat) (s : Subscriber S) (key : Subscription) :
    ∀ (effects : List (Effect S)) (f : Fleet S), (effects.foldl (carry j s) f).eventual key =
      if s.id = key then ((stored effects).getLast?.map s.textOf).or (f.eventual key)
      else f.eventual key
  | [], f => by simp
  | e :: rest, f => by
      rw [List.foldl_cons, eventual_effects j s key rest]
      cases he : e.stored? with
      | none =>
          have hstored : stored (e :: rest) = stored rest := List.filterMap_cons_none he
          rw [eventual_carry_of_none he, hstored]
      | some written =>
          have hstored : stored (e :: rest) = written :: stored rest :=
            List.filterMap_cons_some he
          rw [eventual_carry_of_some he, hstored, List.getLast?_cons]
          split
          · cases (stored rest).getLast? <;> rfl
          · rfl

theorem eventual_commit (effects : List (Effect S)) :
    (f.commit j s effects).eventual key =
      if s.id = key then ((stored effects).getLast?.map s.textOf).or (f.eventual key)
      else f.eventual key := by
  rw [commit, eventual_effects]
  rfl

theorem eventual_get (hlasting : f.Lasting key) (k : Subscription) :
    (f.obey (.cacheGet k)).2.eventual key = f.eventual key := by
  by_cases hkey : k = key
  · subst hkey
    have hsame : (f.cache.get f.calendar k).2 = f.cache := by
      have hlive := hlasting.live
      rw [Store.get]
      cases hfind : f.cache.find? k with
      | none => rfl
      | some e =>
          rw [hfind, Option.all_some] at hlive
          simp only [hlive, if_true]
    exact eventual_congr rfl (congrArg (·.find? k) hsame)
  · exact eventual_congr rfl (Store.find?_get_of_ne hkey)

theorem eventual_publishLatest {group : String} (hkey : Store.latestKey group ≠ key)
    (block : Nat) : (f.obey (.publishLatest group block)).2.eventual key = f.eventual key := by
  have hwrite : (f.obey (.publishLatest group block)).2 =
      (f.write (.set (Store.latestKey group) (Store.latestText block) none)).2 := rfl
  rw [hwrite]
  refine eventual_congr (write_frame _).2 ?_
  rw [write]
  split
  · rfl
  · exact Store.find?_set_of_ne hkey _ _

theorem eventual_publishLatest_self (hworks : f.outage.set = false) {group : String}
    (hwritten : f.Written (Store.latestKey group)) (block : Nat) :
    (f.obey (.publishLatest group block)).2.eventual (Store.latestKey group) =
      some (Store.latestText block) := by
  have hwrite : (f.obey (.publishLatest group block)).2 =
      (f.write (.set (Store.latestKey group) (Store.latestText block) none)).2 := rfl
  rw [hwrite, eventual_of_written (fun w hw => hwritten w ((write_frame _).2 ▸ hw)),
    find?_write hworks (by simp [CacheWrite.fits, Store.fits]), CacheWrite.text?, if_pos rfl,
    Option.some_or]

/-- Without an action, nothing new comes under a key but by a command that writes
there. -/
theorem eventual_of_idle {e : Happening S} (hacting : f.acting? e = none)
    (hlasting : f.Lasting key) (hwrites : ¬e.Writes key) :
    (f.happen e).eventual key = f.eventual key := by
  cases e with
  | age span => rfl
  | write => exact eventual_runOldest hlasting
  | attempt job => rw [happen, attempt_of_none hacting]
  | refresh r => rw [happen, endRefresh, Option.map_eq_none_iff.mp hacting]
  | obey command =>
      cases command with
      | member j command => rw [happen, member_of_idle hacting]
      | runJob index => rw [happen, runJob_of_idle hacting]
      | cacheSet k value ttl => exact eventual_congr rfl (Store.find?_set_of_ne hwrites value ttl)
      | cacheGet k => exact eventual_get hlasting k
      | publishLatest group block => exact eventual_publishLatest hwrites block
      | _ => rfl

/-! ## The record of one master -/

/-- Along a run nobody but members writes under a key, and what is there lasts. -/
def Undisturbed (f : Fleet S) (key : Subscription) : List (Happening S) → Prop
  | [] => f.Lasting key
  | e :: rest => f.Lasting key ∧ ¬e.Writes key ∧ (f.happen e).Undisturbed key rest

theorem Undisturbed.lasting : ∀ {run : List (Happening S)} {f : Fleet S},
    f.Undisturbed key run → (f.after run).Lasting key
  | [], _, h => h
  | _ :: _, _, h => h.2.2.lasting

theorem Undisturbed.of_append : ∀ (front : List (Happening S)) {f : Fleet S}
    {back : List (Happening S)}, f.Undisturbed key (front ++ back) →
      (f.after front).Undisturbed key back
  | [], _, _, h => h
  | _ :: rest, _, _, h => Undisturbed.of_append rest h.2.2

theorem Publishes.of_happen {e : Happening S} (h : (f.happen e).Publishes key j) :
    f.Publishes key j := by
  obtain ⟨t, ht, hid, hshares⟩ := h
  rw [subscriber?_happen] at ht
  obtain ⟨s, hs, rfl⟩ := Option.map_eq_some_iff.mp ht
  refine ⟨s, hs, ?_⟩
  have halike : ∀ t, s.Alike t → t.id = key ∧ t.shares = true → s.id = key ∧ s.shares = true := by
    rintro t halike ⟨hid, hshares⟩
    rw [Subscriber.shares, halike.settings] at hshares
    exact ⟨halike.id ▸ hid, hshares⟩
  refine halike _ ?_ ⟨hid, hshares⟩
  split
  · split
    · exact (Subscriber.Alike.refl s).act _
    · exact .refl s
  · exact .refl s

theorem Publishes.of_after : ∀ (run : List (Happening S)) {f : Fleet S},
    (f.after run).Publishes key j → f.Publishes key j
  | [], _, h => h
  | _ :: rest, _, h => Publishes.of_happen (Publishes.of_after rest h)

/-- A member that does not publish under a key leaves alone what is there. -/
theorem eventual_commit_of_silent (hs : f.subscriber? j = some s) (hsilent : ¬f.Publishes key j)
    (a : Action S) : (f.commit j (s.act a) (s.asked a)).eventual key = f.eventual key := by
  rw [eventual_commit]
  split
  · rename_i hid
    have hshares : s.shares = false := by
      refine Bool.eq_false_iff.mpr fun hshares => hsilent ⟨s, hs, ?_, hshares⟩
      rw [← hid, ((Subscriber.Alike.refl s).act a).id]
    rw [(s.act_reports a).silent hshares]
    rfl
  · rfl

/-- What is under a key that nobody publishes under stays as it is. -/
theorem eventual_after : ∀ {run : List (Happening S)} {f : Fleet S},
    (∀ j, ¬f.Publishes key j) → f.Undisturbed key run → (f.after run).eventual key = f.eventual key
  | [], _, _, _ => rfl
  | e :: rest, f, hnone, ⟨hlasting, hwrites, hrest⟩ => by
      rw [after, eventual_after (fun j hj => hnone j hj.of_happen) hrest]
      cases hacting : f.acting? e with
      | none => exact eventual_of_idle hacting hlasting hwrites
      | some acting =>
          obtain ⟨j, a⟩ := acting
          obtain ⟨s, hs, hhappen⟩ := happen_of_acting hacting
          rw [hhappen]
          exact eventual_commit_of_silent hs (hnone j) a

/-- A member is the only one that publishes under its subscription, and eventually
its snapshot is there, if it holds one. -/
structure Reflects (f : Fleet S) (i : Nat) (s : Subscriber S) : Prop where
  member : f.subscriber? i = some s
  sole : ∀ j, f.Publishes s.id j → j = i
  text : ∀ x, s.replica.current = some x →
    f.eventual s.id = some (s.textOf (s.replica.pointer, x))

theorem Reflects.act (h : f.Reflects i s) (hshares : s.shares = true) (a : Action S) {x : S}
    (hx : (s.act a).replica.current = some x) :
    (f.commit i (s.act a) (s.asked a)).eventual s.id =
      some ((s.act a).textOf ((s.act a).replica.pointer, x)) := by
  have halike := (Subscriber.Alike.refl s).act a
  rw [eventual_commit, if_pos halike.id]
  rcases (s.act_reports a).last hshares x hx with hlast | ⟨hnone, hcurrent, hpointer⟩
  · rw [hlast]
    rfl
  · rw [hnone, ← hpointer]
    refine (h.text x hcurrent).trans ?_
    rw [Subscriber.textOf, Subscriber.textOf, halike.venue]

theorem Reflects.happen (h : f.Reflects i s) (hshares : s.shares = true) {e : Happening S}
    (hlasting : f.Lasting s.id) (hwrites : ¬e.Writes s.id) :
    ∃ t, s.Alike t ∧ (f.happen e).Reflects i t := by
  have hmember := subscriber?_happen (f := f) e i
  have hsole : ∀ j, (f.happen e).Publishes s.id j → j = i := fun j hj => h.sole j hj.of_happen
  rw [h.member, Option.map_some] at hmember
  cases hacting : f.acting? e with
  | none =>
      rw [hacting] at hmember
      refine ⟨s, .refl s, hmember, hsole, fun x hx => ?_⟩
      rw [eventual_of_idle hacting hlasting hwrites]
      exact h.text x hx
  | some acting =>
      obtain ⟨j, a⟩ := acting
      obtain ⟨u, hu, hhappen⟩ := happen_of_acting hacting
      rw [hacting] at hmember
      by_cases hji : j = i
      · subst hji
        obtain rfl : s = u := Option.some.inj (h.member.symm.trans hu)
        simp only [if_true] at hmember
        have halike := (Subscriber.Alike.refl s).act a
        refine ⟨s.act a, halike, hmember, halike.id ▸ hsole, fun x hx => ?_⟩
        rw [hhappen, halike.id]
        exact h.act hshares a hx
      · simp only [if_neg hji] at hmember
        refine ⟨s, .refl s, hmember, hsole, fun x hx => ?_⟩
        rw [hhappen, eventual_commit_of_silent hu (fun hj => hji (h.sole j hj)) a]
        exact h.text x hx

theorem Reflects.after : ∀ (run : List (Happening S)) {f : Fleet S} {s : Subscriber S},
    f.Reflects i s → s.shares = true → f.Undisturbed s.id run →
      ∃ t, s.Alike t ∧ (f.after run).Reflects i t
  | [], _, s, h, _, _ => ⟨s, .refl s, h⟩
  | e :: rest, f, s, h, hshares, hrun => by
      obtain ⟨hlasting, hwrites, hrest⟩ := hrun
      obtain ⟨t, halike, ht⟩ := h.happen hshares hlasting hwrites
      have htshares : t.shares = true := by rwa [Subscriber.shares, halike.settings]
      obtain ⟨u, hu, hafter⟩ := Reflects.after rest ht htshares (halike.id.symm ▸ hrest)
      exact ⟨u, halike.trans hu, hafter⟩

/-- The published record of a master that is the only one to write it, after any
run: once all writes of it have run, it is the snapshot of the master with its
block. An update that does not move the pointer writes nothing, and a checkpoint
that becomes the snapshot again is published. -/
theorem record_after {f : Fleet S} {i : Nat} {id : Subscription} {venue : Venue S}
    {settings : Settings} {valid : Record S → Prop}
    (hnew : f.subscriber? i = some (.new id venue settings))
    (hshares : settings.sharesAs .master = true) (hsole : ∀ j, f.Publishes id j → j = i)
    (hfaithful : (Record.codec venue.codec).Faithful valid) {run : List (Happening S)}
    (hrun : f.Undisturbed id run) :
    ∃ s, (f.after run).subscriber? i = some s
      ∧ ((f.after run).Written id → ∀ x, s.replica.current = some x →
          valid ⟨s.replica.pointer, x⟩ → ∃ text,
            (f.after run).cache.value? (f.after run).calendar id = some text
              ∧ Record.decode venue.codec text = .ok ⟨s.replica.pointer, x⟩)
      ∧ (s.replica.Holds → ∀ source logs headers,
          (s.update source logs headers).subscriber.replica.pointer = s.replica.pointer →
            (s.update source logs headers).effects = [])
      ∧ (s.replica.inactive = false → ∀ block c x,
          (s.replica.rollback block).1 = .to c x → (s.rollback block).2 = [.store c x]) := by
  have hstart : f.Reflects i (.new id venue settings) := ⟨hnew, hsole, nofun⟩
  obtain ⟨s, halike, hafter⟩ := hstart.after run hshares hrun
  have hid : s.id = id := halike.id
  have hvenue : s.venue = venue := halike.venue
  have hstill : s.shares = true := by rwa [Subscriber.shares, halike.settings]
  refine ⟨s, hafter.member, fun hwritten x hx hvalid => ?_, fun hheld source logs headers =>
    Subscriber.effects_of_still hheld, fun ha block c x => Subscriber.rollback_stores hstill ha⟩
  have htext := hafter.text x hx
  rw [hid] at htext
  refine ⟨_, value?_of_written hwritten hrun.lasting htext, ?_⟩
  rw [Subscriber.textOf, hvenue]
  exact Record.decode_eq_ok.mpr (hfaithful _ hvalid)

/-- A master that counts the logs of a contract and shares the count. -/
def counting : Fleet Counter :=
  .new [⟨.new ⟨"g", "p"⟩ (Counter.venue 7) { Settings.default with shareCache := true },
    Counter.supply 4 0, 0, false⟩] (.listed []) Settings.default.aggregationWindow

/-- The count of block 10 is published. Block 12 has a log and is replaced before
the second write runs. -/
def recounted : List (Happening Counter) :=
  [.obey (.member 0 (.establish 10 .usual)), .write,
    .obey (.member 0 (.update [⟨7, [], [], some 12, some 0⟩] (.ofList [⟨12, 12, 11, 0⟩]))),
    .obey (.member 0 .invalidate), .obey (.member 0 (.rollback 11)), .write, .write]

theorem record_after_recounted : ∃ text,
    (counting.after recounted).cache.value? (counting.after recounted).calendar ⟨"g", "p"⟩
        = some text
      ∧ Record.decode Counter.codec text = .ok ⟨10, ⟨4⟩⟩ := by
  have hsole : ∀ j, counting.Publishes ⟨"g", "p"⟩ j → j = 0 := by
    rintro j ⟨s, hs, -⟩
    cases j with
    | zero => rfl
    | succ j => cases hs
  have hrun : counting.Undisturbed ⟨"g", "p"⟩ recounted := by
    refine ⟨⟨rfl, by decide, by decide⟩, id, ⟨rfl, by decide, by decide⟩, id,
      ⟨rfl, by decide, by decide⟩, id, ⟨rfl, by decide, by decide⟩, id,
      ⟨rfl, by decide, by decide⟩, id, ⟨rfl, by decide, by decide⟩, id,
      ⟨rfl, by decide, by decide⟩, id, rfl, by decide, by decide⟩
  have hnew : counting.subscriber? 0 = some (.new ⟨"g", "p"⟩ (Counter.venue 7)
      { Settings.default with shareCache := true }) := rfl
  obtain ⟨s, hs, hrecord, -⟩ := record_after hnew rfl hsole Counter.record_faithful hrun
  have hheld : ((counting.after recounted).subscriber? 0).map
      (fun s => (s.replica.current, s.replica.pointer)) = some (some ⟨4⟩, 10) := rfl
  rw [hs, Option.map_some, Option.some.injEq, Prod.mk.injEq] at hheld
  obtain ⟨hcurrent, hpointer⟩ := hheld
  have hwritten : (counting.after recounted).Written ⟨"g", "p"⟩ := nofun
  have hfound := hrecord hwritten ⟨4⟩ hcurrent
  rw [hpointer] at hfound
  exact hfound ⟨by decide, by decide⟩

end Fleet

end ChainReplica
