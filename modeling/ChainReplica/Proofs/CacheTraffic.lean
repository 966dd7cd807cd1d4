import ChainReplica.Proofs.Clients
import ChainReplica.Venue.Counter

/-!
# Calls to the cache

The role of a subscriber confines its calls to the cache (`Subscriber.MayCall`): only
a slave that shares reads, and announces itself; only a master that shares writes
snapshots, under its own subscription. This holds of every call in every run, also of
the calls of tasks (`Client.Confined.mayCall`), since a client starts only
what its settings allow.

A call that fails costs nothing but itself. Whatever is wrong with an answer, a
client makes of it what it makes of a text that is missing, and it makes nothing of
the answer to a write. A run in which everything that is wrong is tidied up
(`Event.tidied`) is therefore the same run. `Client.traffic_confined` says both.
-/

namespace ChainReplica

variable {S : Type}

/-! ## Calls that a role allows -/

/-- The calls to the cache that a subscriber may make. -/
def Subscriber.MayCall (s : Subscriber S) : CacheCall → Prop
  | .get key =>
    s.settings.sharesAs .slave = true ∧ (key = s.id ∨ key = Store.latestKey s.id.group)
  | .write (.set key _ _) => s.settings.sharesAs .master = true ∧ key = s.id
  | .write (.publish topic _) =>
    s.settings.sharesAs .slave = true ∧ topic = s.settings.discoveryChannel

namespace Subscriber

variable {s t : Subscriber S}

theorem MayCall.shares {call : CacheCall} (h : s.MayCall call) : s.settings.shareCache = true := by
  match call, h with
  | .get key, h => exact (Settings.sharesAs_iff.mp h.1).1
  | .write (.set key value ttl), h => exact (Settings.sharesAs_iff.mp h.1).1
  | .write (.publish topic payload), h => exact (Settings.sharesAs_iff.mp h.1).1

theorem mayCall_write? (halike : s.Alike t) {e : Effect S} (h : s.settings.Allows e)
    {w : CacheWrite} (hw : t.write? e = some w) : s.MayCall (.write w) := by
  cases e with
  | store block x =>
      obtain rfl := Option.some.inj hw
      exact ⟨h, halike.id⟩
  | announce block =>
      obtain rfl := Option.some.inj hw
      exact ⟨h, congrArg Settings.discoveryChannel halike.settings⟩
  | _ => cases hw

theorem mayCall_query {world : Outside S} {start : Start S} {q : Query}
    (hq : q ∈ s.queries world start) : s.MayCall (.get (q.key s.id)) := by
  cases start with
  | supplied x => cases hq
  | fresh => cases hq
  | usual =>
      rw [queries] at hq
      split at hq
      · rename_i hslave
        refine ⟨hslave, ?_⟩
        cases q with
        | record => exact Or.inl rfl
        | latest => exact Or.inr rfl
      · cases hq

theorem take_allowed (record : Record S) : ∀ e ∈ (s.take record).2, s.settings.Allows e := by
  rw [take]
  split
  · exact List.forall_mem_nil _
  · exact put_allowed _ _

end Subscriber

namespace Client

variable {c c' : Client S} {s : Subscriber S} {e : Event S}

/-- A client of a subscriber, with no tasks but those that its role allows. -/
structure Confined (c : Client S) (s : Subscriber S) : Prop where
  alike : s.Alike c.subscriber
  refreshes : c.refreshes ≠ [] → s.settings.sharesAs .slave = true
  queued : ∀ w ∈ c.queued, s.MayCall (.write w)

namespace Confined

theorem commit (h : c.Confined s) {t : Subscriber S} {effects : List (Effect S)}
    (halike : s.Alike t) (hallowed : ∀ e ∈ effects, s.settings.Allows e) :
    (c.commit t effects).Confined s := by
  refine ⟨halike, fun hne => ?_, ?_⟩
  · -- A first refresh was asked for just now, which the settings must allow.
    by_cases hbefore : c.refreshes = []
    · have hstarted : effects.countP Effect.isRefresh ≠ 0 := fun hzero =>
        hne (by rw [Client.commit, hbefore, hzero, List.replicate_zero, List.append_nil])
      obtain ⟨e, he, hrefresh⟩ := List.countP_pos_iff.mp (Nat.pos_of_ne_zero hstarted)
      cases e with
      | refresh => exact hallowed _ he
      | _ => cases hrefresh
    · exact h.refreshes hbefore
  · refine List.forall_mem_append.mpr ⟨h.queued, fun w hw => ?_⟩
    obtain ⟨e, he, hwrite⟩ := List.mem_filterMap.mp hw
    exact Subscriber.mayCall_write? halike (hallowed e he) hwrite

theorem set (h : c.Confined s) (n : Nat) {t : Subscriber S} (halike : s.Alike t)
    (next : Phase S) : (⟨t, c.refreshes.set n next, c.queued⟩ : Client S).Confined s := by
  refine ⟨halike, fun hne => h.refreshes fun hnil => hne ?_, h.queued⟩
  change c.refreshes.set n next = []
  rw [hnil, List.set_nil]

theorem passes (h : c.Confined s) (hpass : c.Passes e c') : c'.Confined s := by
  have halike := h.alike.trans hpass.alike
  cases hpass with
  | still => exact h
  | acted a _ =>
      exact h.commit halike (h.alike.settings ▸ c.subscriber.asked_allowed a)
  | wrote place answer =>
      exact ⟨h.alike, h.refreshes, fun w hw => h.queued w (List.mem_of_mem_eraseIdx hw)⟩
  | woke hn => exact h.set _ halike _
  | read hn answer => exact h.set _ halike _
  | @took n record hn =>
      exact (h.set n h.alike .over).commit halike
        (h.alike.settings ▸ Subscriber.take_allowed record)

/-- A client makes no call that its subscriber may not make. -/
theorem mayCall (h : c.Confined s) (e : Event S) :
    ∀ call ∈ c.calls e, s.MayCall call := by
  have hget : ∀ key, c.subscriber.MayCall (.get key) → s.MayCall (.get key) := by
    intro key hmay
    rw [Subscriber.MayCall, ← h.alike.settings, ← h.alike.id]
    exact hmay
  intro call hcall
  cases e with
  | obey command world =>
      cases command with
      | establish block start =>
          obtain ⟨q, hq, rfl⟩ := List.mem_map.mp hcall
          exact hget _ (Subscriber.mayCall_query hq)
      | _ => cases hcall
  | read n answer =>
      rw [calls] at hcall
      split at hcall
      · rename_i hreading
        rw [List.mem_singleton.mp hcall]
        have hslave := h.refreshes (List.ne_nil_of_mem (List.mem_of_getElem? hreading))
        exact ⟨hslave, Or.inl h.alike.id⟩
      · cases hcall
  | write place answer =>
      obtain ⟨w, hw, rfl⟩ := List.mem_map.mp hcall
      exact h.queued w (List.mem_of_getElem? (Option.mem_toList.mp hw))
  | attempt source block => cases hcall
  | wake n => cases hcall
  | take n => cases hcall

end Confined

end Client

/-! ## Calls that fail -/

/-- What the cache answers, or that there is nothing if the answer is no good. -/
def Answer.tidied (good : Bool) (answer : Answer) : Answer := if good then answer else .ok none

theorem recordOf_tidied (codec : Codec S) (answer : Answer) :
    recordOf codec (answer.tidied (recordOf codec answer).isSome) = recordOf codec answer := by
  cases h : recordOf codec answer with
  | none => rfl
  | some record => exact h

theorem latestOf_tidied (answer : Answer) :
    latestOf (answer.tidied (latestOf answer).isSome) = latestOf answer := by
  cases h : latestOf answer with
  | none => rfl
  | some block => exact h

/-- The event as it were if a failure, or a text that is not readable, were a miss,
and if every write succeeded. -/
def Event.tidied (codec : Codec S) : Event S → Event S
  | .obey command world => .obey command { world with
      answer := fun
        | .record => (world.answer .record).tidied (recordOf codec (world.answer .record)).isSome
        | .latest => (world.answer .latest).tidied (latestOf (world.answer .latest)).isSome }
  | .read n answer => .read n (answer.tidied (recordOf codec answer).isSome)
  | .write place _ => .write place (.ok ())
  | .attempt source block => .attempt source block
  | .wake n => .wake n
  | .take n => .take n

namespace Client

variable {c : Client S}

/-- What is wrong with the answers of the cache makes no difference to an event. -/
theorem pass_tidied (c : Client S) (e : Event S) :
    c.pass (e.tidied c.subscriber.venue.codec) = c.pass e
      ∧ c.reply (e.tidied c.subscriber.venue.codec) = c.reply e := by
  cases e with
  | obey command world =>
      rw [Event.tidied]
      generalize htidied : ({ world with answer := _ } : Outside S) = tidied
      -- The subscriber sees answers only through what it makes of them.
      have hsame : c.subscriber.surroundings tidied = c.subscriber.surroundings world := by
        rw [← htidied]
        simp only [Subscriber.surroundings, recordOf_tidied, latestOf_tidied]
      refine ⟨?_, ?_⟩
      · rw [pass, pass, next, next, hsame]
        rfl
      · rw [reply, reply, hsame]
  | read n answer =>
      refine ⟨?_, rfl⟩
      have hsame : Phase.answered c.subscriber.venue.codec
          (answer.tidied (recordOf c.subscriber.venue.codec answer).isSome) =
            .answered c.subscriber.venue.codec answer := by
        rw [Phase.answered, recordOf_tidied, Phase.answered]
      by_cases hn : c.phase? n = some .reading
      · rw [Event.tidied, pass_read hn, pass_read hn, hsame]
      · rw [Event.tidied, pass_read_of_ne hn, pass_read_of_ne hn]
  | write place answer => exact ⟨rfl, rfl⟩
  | attempt source block => exact ⟨rfl, rfl⟩
  | wake n => exact ⟨rfl, rfl⟩
  | take n => exact ⟨rfl, rfl⟩

/-- A run that is tidied up is the same run. -/
theorem after_tidied : ∀ (run : List (Event S)) (c : Client S),
    c.after (run.map (Event.tidied c.subscriber.venue.codec)) = c.after run
      ∧ c.replies (run.map (Event.tidied c.subscriber.venue.codec)) = c.replies run
  | [], _ => ⟨rfl, rfl⟩
  | e :: rest, c => by
      obtain ⟨hpass, hreply⟩ := c.pass_tidied e
      have hrest := after_tidied rest (c.pass e)
      rw [(c.passes e).alike.venue] at hrest
      rw [List.map_cons, after, replies, hpass, hreply, after, replies, hrest.1, hrest.2]
      exact ⟨rfl, rfl⟩

/-- The calls to the cache of a new subscriber, in any run: none without sharing, a
slave writes no snapshot, a master neither reads nor publishes on a topic, and a
snapshot is written only by a master that shares, under its own subscription. What
the cache answers, and the answers to commands, are as if every failure and every
text that is not readable were a miss, and every write succeeded. -/
theorem traffic_confined (id : Subscription) (venue : Venue S) (settings : Settings)
    (run : List (Event S)) :
    let start := Client.new (.new id venue settings)
    let c := start.after run
    let tidied := run.map (Event.tidied venue.codec)
    (settings.shareCache = false → ∀ e, c.calls e = [])
      ∧ (settings.role = .slave → ∀ e key value ttl, .write (.set key value ttl) ∉ c.calls e)
      ∧ (settings.role = .master → ∀ e, (∀ key, .get key ∉ c.calls e)
        ∧ ∀ topic payload, .write (.publish topic payload) ∉ c.calls e)
      ∧ (∀ e key value ttl, .write (.set key value ttl) ∈ c.calls e →
        settings.role = .master ∧ settings.shareCache = true ∧ key = id)
      ∧ start.after tidied = c ∧ start.replies tidied = start.replies run := by
  intro start c tidied
  have hstart : start.Confined (.new id venue settings) := ⟨.refl _, fun h => absurd rfl h, nofun⟩
  have hcalls := (after_keeps Confined.passes run hstart).mayCall
  have hslave : ∀ {P : Prop}, settings.role = .master → settings.sharesAs .slave = true → P :=
    fun hrole hshares =>
      absurd hshares (by rw [Settings.sharesAs_slave_of_master hrole]; exact nofun)
  refine ⟨fun hshares e => ?_, fun hrole e key value ttl hcall => ?_, fun hrole e => ⟨?_, ?_⟩,
    fun e key value ttl hcall => ?_, after_tidied run start⟩
  · refine List.eq_nil_iff_forall_not_mem.mpr fun call hcall => ?_
    cases hshares.symm.trans (hcalls e call hcall).shares
  · cases hrole.symm.trans (Settings.sharesAs_iff.mp (hcalls e _ hcall).1).2
  · exact fun key hcall => hslave hrole (hcalls e _ hcall).1
  · exact fun topic payload hcall => hslave hrole (hcalls e _ hcall).1
  · obtain ⟨hmaster, hkey⟩ := hcalls e _ hcall
    obtain ⟨hshares, hrole⟩ := Settings.sharesAs_iff.mp hmaster
    exact ⟨hrole, hshares, hkey⟩

/-- A client that was given a snapshot of block 10. -/
def supplied (role : Role) (shareCache : Bool) : Client Counter :=
  (Client.new (.new ⟨"g", "n"⟩ (Counter.venue 7)
    { Settings.default with role := role, shareCache := shareCache })).after
      [.obey (.put (some ⟨4⟩) 10) ⟨fun _ => .ok ⟨0⟩, .ok (), fun _ => .ok none⟩]

/-- One client that does not share, one that is a slave, and a master that writes
its snapshot under its own subscription. -/
theorem traffic_confined_supplied :
    (∀ e, (supplied .master false).calls e = [])
      ∧ (∀ e key value ttl, .write (.set key value ttl) ∉ (supplied .slave true).calls e)
      ∧ (∀ e key, .get key ∉ (supplied .master true).calls e)
      ∧ ∃ key value ttl,
        .write (.set key value ttl) ∈ (supplied .master true).calls (.write 0 (.ok ()))
          ∧ key = ⟨"g", "n"⟩ := by
  have hwrites : .write (.set ⟨"g", "n"⟩ _ _) ∈ (supplied .master true).calls (.write 0 (.ok ())) :=
    List.mem_singleton_self _
  refine ⟨(traffic_confined ⟨"g", "n"⟩ (Counter.venue 7) _ _).1 rfl,
    (traffic_confined ⟨"g", "n"⟩ (Counter.venue 7) _ _).2.1 rfl,
    fun e => ((traffic_confined ⟨"g", "n"⟩ (Counter.venue 7) _ _).2.2.1 rfl e).1,
    _, _, _, hwrites, ?_⟩
  exact ((traffic_confined ⟨"g", "n"⟩ (Counter.venue 7) _ _).2.2.2.1 _ _ _ _ hwrites).2.2

end Client

end ChainReplica
