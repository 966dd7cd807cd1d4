import ChainReplica.Proofs.Clients
import ChainReplica.Venue.Counter

/-!
# Asleep for good

A subscriber that was put to sleep stays asleep, with the replica that it had then
(`Client.stays_asleep`). This is so whatever it is told to do, and whatever is still
on its way when it goes to sleep: a refresh that waits, one that has read a record,
an attempt of a job. What it asks for from then on is quiet (`Effect.Quiet`): it may
still build a snapshot from scratch that is thrown away, register for logs and
announce itself, since the search for a first snapshot does not look whether the
subscriber sleeps, but nothing is published, no job is submitted, and no refresh is
asked for.
-/

namespace ChainReplica

variable {S : Type}

/-- An effect that a subscriber may ask for in its sleep. -/
def Effect.Quiet : Effect S → Prop
  | .generate _ | .announce _ | .register _ => True
  | .store .. | .heal _ | .refresh | .coalesce => False

theorem countP_isRefresh_of_quiet {effects : List (Effect S)} (h : ∀ e ∈ effects, e.Quiet) :
    effects.countP Effect.isRefresh = 0 :=
  List.countP_eq_zero.mpr fun e he hrefresh => by
    cases e with
    | refresh => exact h _ he
    | _ => cases hrefresh

namespace Subscriber

variable {s : Subscriber S}

/-! ## What a subscriber does in its sleep -/

theorem put_asleep (ha : s.replica.inactive = true) (snapshot : Option S) (block : Nat) :
    s.put snapshot block = (s, []) := by
  cases snapshot <;> rw [put, if_pos ha]

theorem update_asleep (ha : s.replica.inactive = true) (source : Source S) (logs : List Log)
    (headers : Headers) : s.update source logs headers = ⟨s, [], .ok ()⟩ := by
  rw [update, if_pos ha]

theorem heal_asleep (ha : s.replica.inactive = true) (source : Source S) (block : Nat) :
    s.heal source block = (true, s, []) := by
  rw [heal, healed, ha, Bool.true_or, if_pos rfl]

theorem take_asleep (ha : s.replica.inactive = true) (record : Record S) :
    s.take record = (s, []) := by
  rw [take, put_asleep ha, ite_self]

theorem adopt_asleep (ha : s.replica.inactive = true) (world : Surroundings S) (x : S)
    (block baseline : Nat) :
    s.adopt world x block baseline = s.registered [] world baseline := by
  rw [adopt, put_asleep ha]

/-- A snapshot from scratch is thrown away. -/
theorem build_asleep (ha : s.replica.inactive = true) (world : Surroundings S) (block : Nat)
    (announced : Bool) :
    (s.build world block announced).subscriber = s
      ∧ ∀ e ∈ (s.build world block announced).effects, e.Quiet := by
  rw [build]
  cases world.source block with
  | error e => exact ⟨rfl, List.forall_mem_singleton.mpr trivial⟩
  | ok fresh =>
      dsimp only
      rw [put_asleep ha]
      refine ⟨rfl, ?_⟩
      cases announced <;> simp [registered, Effect.Quiet]

theorem establish_asleep (ha : s.replica.inactive = true) (world : Surroundings S) (block : Nat)
    (start : Start S) :
    (s.establish world block start).subscriber = s
      ∧ ∀ e ∈ (s.establish world block start).effects, e.Quiet := by
  refine establish_cases (motive := fun o => o.subscriber = s ∧ ∀ e ∈ o.effects, e.Quiet)
    (fun x k baseline => ?_) (fun announced _ => build_asleep ha world block announced) start
  rw [adopt_asleep ha]
  exact ⟨rfl, List.forall_mem_singleton.mpr trivial⟩

/-- No action wakes a subscriber up, and what it asks for is quiet. -/
theorem act_asleep (ha : s.replica.inactive = true) (a : Action S) :
    (s.act a).replica = s.replica ∧ ∀ e ∈ s.asked a, e.Quiet := by
  cases a with
  | establish world block start =>
      obtain ⟨hsame, hquiet⟩ := establish_asleep ha world block start
      exact ⟨congrArg replica hsame, hquiet⟩
  | update b =>
      rw [act, asked, update_asleep ha]
      exact ⟨rfl, List.forall_mem_nil _⟩
  | absorb found =>
      rw [act, asked, absorb_eq]
      cases found with
      | none => exact ⟨rfl, List.forall_mem_nil _⟩
      | some record =>
          have hwoken : s.wake.replica.inactive = true := ha
          dsimp only
          rw [take_asleep hwoken]
          exact ⟨rfl, List.forall_mem_nil _⟩
  | heal source block =>
      rw [act, asked, heal_asleep ha]
      exact ⟨rfl, List.forall_mem_nil _⟩
  | put snapshot block =>
      rw [act, asked, put_asleep ha]
      exact ⟨rfl, List.forall_mem_nil _⟩
  | rollback block =>
      rw [act, asked, rollback, if_pos ha]
      exact ⟨rfl, List.forall_mem_nil _⟩
  | restart block =>
      rw [act, asked, restart, if_pos ha]
      exact ⟨rfl, List.forall_mem_nil _⟩
  | invalidate =>
      rw [act, invalidate, if_pos ha]
      exact ⟨rfl, List.forall_mem_nil _⟩
  | inactivate =>
      refine ⟨?_, List.forall_mem_nil _⟩
      rw [act, inactivate, Replica.inactivate, ← ha]

end Subscriber

/-! ## Runs -/

namespace Client

variable {c c' : Client S} {e : Event S} {r : Replica S} {started : Nat} {queued : List CacheWrite}

/-- A client whose subscriber sleeps on a replica, that has started no refresh but
those before, and no write of a snapshot but those that were queued. -/
structure Asleep (c : Client S) (r : Replica S) (started : Nat) (queued : List CacheWrite) :
    Prop where
  inactive : r.inactive = true
  replica : c.subscriber.replica = r
  started : c.refreshes.length = started
  queued : ∀ w ∈ c.queued, w ∈ queued ∨ ∃ topic payload, w = .publish topic payload

theorem Asleep.commit (h : c.Asleep r started queued) {s : Subscriber S}
    {effects : List (Effect S)} (hs : s.replica = c.subscriber.replica)
    (hquiet : ∀ e ∈ effects, e.Quiet) : (c.commit s effects).Asleep r started queued := by
  refine ⟨h.inactive, hs.trans h.replica, ?_, ?_⟩
  · rw [Client.commit, countP_isRefresh_of_quiet hquiet, List.replicate_zero, List.append_nil]
    exact h.started
  · refine List.forall_mem_append.mpr ⟨h.queued, fun w hw => Or.inr ?_⟩
    obtain ⟨e, he, hwrite⟩ := List.mem_filterMap.mp hw
    cases e with
    | announce block => exact ⟨_, _, (Option.some.inj hwrite).symm⟩
    | store block x => exact (hquiet _ he).elim
    | _ => cases hwrite

theorem Asleep.passes (h : c.Asleep r started queued) (hpass : c.Passes e c') :
    c'.Asleep r started queued := by
  have ha : c.subscriber.replica.inactive = true := h.replica ▸ h.inactive
  have hset : ∀ (n : Nat) (s : Subscriber S) (next : Phase S), s.replica = c.subscriber.replica →
      (⟨s, c.refreshes.set n next, c.queued⟩ : Client S).Asleep r started queued :=
    fun n s next hs => ⟨h.inactive, hs.trans h.replica, by rw [List.length_set, h.started],
      h.queued⟩
  cases hpass with
  | still => exact h
  | acted a _ => exact h.commit (Subscriber.act_asleep ha a).1 (Subscriber.act_asleep ha a).2
  | wrote place answer =>
      exact ⟨h.inactive, h.replica, h.started, fun w hw => h.queued w (List.mem_of_mem_eraseIdx hw)⟩
  | woke hn => exact hset _ _ _ rfl
  | read hn answer => exact hset _ _ _ rfl
  | took hn =>
      rw [Subscriber.take_asleep ha]
      exact (hset _ _ _ rfl).commit rfl (List.forall_mem_nil _)

/-- What a client asks for in its sleep. -/
theorem Asleep.next_quiet (h : c.Asleep r started queued) (e : Event S) :
    ∀ x ∈ (c.next e).2, x.Quiet := by
  have ha : c.subscriber.replica.inactive = true := h.replica ▸ h.inactive
  cases e with
  | obey command world =>
      rw [next]
      split
      · exact (Subscriber.act_asleep ha _).2
      · exact List.forall_mem_nil _
  | attempt source block => exact (Subscriber.act_asleep ha (.heal source block)).2
  | wake n =>
      rw [next]
      split <;> exact List.forall_mem_nil _
  | take n =>
      rw [next]
      split
      · rw [Subscriber.take_asleep ha]
        exact List.forall_mem_nil _
      · exact List.forall_mem_nil _
  | write place answer => exact List.forall_mem_nil _
  | read n answer => exact List.forall_mem_nil _

/-- After a subscriber was put to sleep, whatever happens: its replica stays as it
was, but for the sleep; it starts no refresh and queues no snapshot, and asks for
nothing else that is not quiet; updates succeed without doing anything, even those
that a strict policy would reject; and an attempt of a job is done without building
anything. -/
theorem stays_asleep (c : Client S) (world : Outside S) (later : List (Event S)) :
    let d := (c.pass (.obey .inactivate world)).after later
    d.subscriber.replica = c.subscriber.replica.inactivate
      ∧ d.refreshes.length = c.refreshes.length
      ∧ (∀ w ∈ d.queued, w ∈ c.queued ∨ ∃ topic payload, w = .publish topic payload)
      ∧ (∀ e, ∀ x ∈ (d.next e).2, x.Quiet)
      ∧ (∀ logs headers during,
        d.reply (.obey (.update logs headers) during) = .outcome (.ok ())
          ∧ d.next (.obey (.update logs headers) during) = (d.subscriber, []))
      ∧ ∀ source block,
        d.reply (.attempt source block) = .job (some (d.subscriber.healKey, true))
          ∧ d.next (.attempt source block) = (d.subscriber, []) := by
  intro d
  -- What was on its way at that moment is what the invariant starts from.
  have hasleep : (c.pass (.obey .inactivate world)).Asleep c.subscriber.replica.inactivate
      c.refreshes.length c.queued := by
    refine ⟨rfl, rfl, ?_, fun w hw => Or.inl ?_⟩
    · exact congrArg List.length (List.append_nil c.refreshes)
    · exact List.append_nil c.queued ▸ hw
  have hd : d.Asleep c.subscriber.replica.inactivate c.refreshes.length c.queued :=
    after_keeps Asleep.passes later hasleep
  have ha : d.subscriber.replica.inactive = true := hd.replica ▸ hd.inactive
  refine ⟨hd.replica, hd.started, hd.queued, hd.next_quiet, fun logs headers during => ?_,
    fun source block => ?_⟩
  · change Reply.outcome (d.subscriber.update during.source logs headers).result = _
      ∧ ((d.subscriber.update during.source logs headers).subscriber,
        (d.subscriber.update during.source logs headers).effects) = _
    rw [Subscriber.update_asleep ha]
    exact ⟨rfl, rfl⟩
  · change Reply.job (some (d.subscriber.healKey, (d.subscriber.heal source block).1)) = _
      ∧ ((d.subscriber.heal source block).2.1, (d.subscriber.heal source block).2.2) = _
    rw [Subscriber.heal_asleep ha]
    exact ⟨rfl, rfl⟩

/-- A master that takes strictly ordered batches only, and a log without the header
of its block. -/
theorem stays_asleep_strict :
    let c := Client.new (.new ⟨"g", "n"⟩ (Counter.venue 7)
      { Settings.default with policy := .strict })
    let world : Outside Counter := ⟨fun _ => .ok ⟨0⟩, .ok (), fun _ => .ok none⟩
    let e := Event.obey (.update [⟨7, [], [], some 5, some 0⟩] .empty) world
    (∃ failure, c.reply e = .outcome (.error failure))
      ∧ (c.pass (.obey .inactivate world)).reply e = .outcome (.ok ())
      ∧ ∀ x ∈ ((c.pass (.obey .inactivate world)).next e).2, x.Quiet := by
  intro c world e
  obtain ⟨-, -, -, hquiet, hupdate, -⟩ := stays_asleep c world []
  exact ⟨⟨_, rfl⟩, (hupdate [⟨7, [], [], some 5, some 0⟩] .empty world).1, hquiet e⟩

end Client

end ChainReplica
