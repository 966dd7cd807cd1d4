import ChainReplica.Proofs.Beginning
import ChainReplica.Proofs.Dormancy
import ChainReplica.Proofs.Generation
import ChainReplica.Proofs.Hosting

/-!
# The search for a first snapshot

A subscriber finds its first snapshot in one place and registers for logs once
(`Subscriber.establish_once`). The place does not depend on the snapshot that it
may hold already: it is the one the caller brings, the cache on a slave that
shares, or the venue, and the venue alone if the caller asks for a snapshot from
scratch. Texts that cannot be read are as good as missing ones.

A fleet does with this what the effects say, and nothing else
(`Fleet.commit_recorded`): a call to the venue is counted, writes to the cache
wait, and the registration is made unless it is turned down. The snapshot is held
by then, so that it stays when the registration fails.
-/

namespace ChainReplica

variable {S : Type}

/-- The registration that an effect asks for. -/
def Subscriber.registration? (s : Subscriber S) : Effect S → Option Registration
  | .register block => some ⟨s.id, s.venue.addresses, block⟩
  | _ => none

/-- A member after calls for a snapshot from scratch. -/
def Member.called (n : Nat) (m : Member S) : Member S := { m with calls := m.calls + n }

theorem Member.called_zero : (Member.called 0 : Member S → Member S) = id := rfl

theorem Member.called_comp (k n : Nat) :
    Member.called n ∘ Member.called k = (Member.called (k + n) : Member S → Member S) := by
  funext m
  simp only [called, Function.comp_apply, Nat.add_assoc]

/-! ## Effects on a fleet -/

namespace Fleet

variable {f : Fleet S} {i : Nat} {s : Subscriber S} {e : Effect S}

/-- What comes of effects that start neither jobs nor refreshes. -/
def recorded (f : Fleet S) (i : Nat) (s : Subscriber S) (effects : List (Effect S)) : Fleet S :=
  { f with
    members := f.members.modify i (Member.called (built effects).length)
    queued := f.queued ++ effects.filterMap s.write?
    registry := if f.rejecting then f.registry
      else f.registry ++ effects.filterMap s.registration? }

theorem recorded_nil : f.recorded i s [] = f := by
  simp [recorded, built, Member.called_zero, List.modify_id]

theorem recorded_append (xs ys : List (Effect S)) :
    (f.recorded i s xs).recorded i s ys = f.recorded i s (xs ++ ys) := by
  cases hrejecting : f.rejecting <;>
    simp [recorded, hrejecting, built_append, List.modify_modify_eq, Member.called_comp]

theorem carry_recorded (h : e.Plain ∨ e.Quiet) : carry i s f e = f.recorded i s [e] := by
  cases e with
  | generate block =>
      have hcalled : (fun m : Member S => { m with calls := m.calls + 1 }) = Member.called 1 := rfl
      simp [carry, recorded, modify, built, hcalled, Subscriber.write?, Subscriber.registration?]
  | store block x =>
      simp [carry, recorded, enqueue, built, Member.called_zero, List.modify_id,
        Subscriber.write?, Subscriber.registration?]
  | announce block =>
      simp [carry, recorded, enqueue, built, Member.called_zero, List.modify_id,
        Subscriber.write?, Subscriber.registration?]
  | register block =>
      have hqueued : [Effect.register block].filterMap s.write? = [] := rfl
      rw [carry, register, recorded, hqueued]
      split <;> simp [built, Member.called_zero, List.modify_id, Subscriber.registration?]
  | heal block => exact (h.elim id id).elim
  | refresh => exact (h.elim id id).elim
  | coalesce => exact (h.elim id id).elim

/-- What is recorded depends on the subscription, the venue and the settings only. -/
theorem recorded_alike {t : Subscriber S} (h : s.Alike t) : f.recorded i t = f.recorded i s := by
  have hwrite : t.write? = s.write? := by
    funext e
    cases e <;> simp only [Subscriber.write?, h.id, h.venue, h.settings]
  have hregistration : t.registration? = s.registration? := by
    funext e
    cases e <;> simp only [Subscriber.registration?, h.id, h.venue]
  funext effects
  rw [recorded, recorded, hwrite, hregistration]

/-- What an operation asks for is carried out once, in order. -/
theorem commit_recorded (f : Fleet S) (i : Nat) (s : Subscriber S) {effects : List (Effect S)}
    (h : ∀ e ∈ effects, e.Plain ∨ e.Quiet) :
    f.commit i s effects =
      (f.modify i fun m => { m with subscriber := s }).recorded i s effects := by
  rw [commit]
  generalize (f.modify i fun m => { m with subscriber := s }) = g
  induction effects generalizing g with
  | nil => exact recorded_nil.symm
  | cons e rest ih =>
      obtain ⟨he, hrest⟩ := List.forall_mem_cons.mp h
      rw [List.foldl_cons, carry_recorded he, ih hrest, recorded_append]
      rfl

end Fleet

/-! ## The search -/

namespace Subscriber

variable {s : Subscriber S} {surroundings : Surroundings S} {block : Nat}
  {options : StartOptions S}

theorem build_immediate (s : Subscriber S) (surroundings : Surroundings S) (block : Nat)
    (announced : Bool) :
    ∀ e ∈ (s.build surroundings block announced).effects, e.Plain ∨ e.Quiet := by
  rw [build]
  cases surroundings.source block with
  | error e => exact List.forall_mem_singleton.mpr (Or.inl trivial)
  | ok fresh =>
      have hput : ∀ e ∈ (s.put (some fresh) block).2, e.Plain ∨ e.Quiet :=
        fun e he => Or.inl (s.put_some_plain fresh block e he)
      have hannounced : ∀ e ∈ (if announced then [Effect.announce block] else []),
          (e : Effect S).Plain ∨ e.Quiet := by
        split
        · exact List.forall_mem_singleton.mpr (Or.inr trivial)
        · exact List.forall_mem_nil _
      exact List.forall_mem_append.mpr
        ⟨List.forall_mem_append.mpr ⟨List.forall_mem_cons.mpr ⟨Or.inl trivial, hput⟩, hannounced⟩,
          List.forall_mem_singleton.mpr (Or.inr trivial)⟩

theorem adopt_immediate (s : Subscriber S) (surroundings : Surroundings S) (x : S)
    (block baseline : Nat) :
    ∀ e ∈ (s.adopt surroundings x block baseline).effects, e.Plain ∨ e.Quiet :=
  List.forall_mem_append.mpr ⟨fun e he => Or.inl (s.put_some_plain x block e he),
    List.forall_mem_singleton.mpr (Or.inr trivial)⟩

theorem establish_immediate (s : Subscriber S) (surroundings : Surroundings S) (block : Nat)
    (start : Start S) :
    ∀ e ∈ (s.establish surroundings block start).effects, e.Plain ∨ e.Quiet :=
  establish_cases (motive := fun o => ∀ e ∈ o.effects, e.Plain ∨ e.Quiet)
    (s.adopt_immediate surroundings)
    (fun announced _ => s.build_immediate surroundings block announced) start

/-- Whether the search looks into the cache, if the caller brings no snapshot. -/
def looksUp (s : Subscriber S) (options : StartOptions S) : Bool :=
  !options.fresh && s.settings.sharesAs .slave

theorem establish_of_hit (ha : s.replica.inactive = false) (hnone : options.snapshot = none)
    (hlooks : s.looksUp options = true) {record : Record S}
    (hpublished : surroundings.published = some record) :
    s.establish surroundings block options.start = ⟨s.holding record.snapshot record.block,
      [.register (surroundings.processed.getD record.block)], surroundings.registration⟩ := by
  rw [looksUp, Bool.and_eq_true, Bool.not_eq_true'] at hlooks
  have hstart : options.start = .usual := by rw [StartOptions.start, hnone, hlooks.1]; rfl
  rw [hstart, establish_of_published ha hlooks.2 hpublished]

/-- Without a record the snapshot comes from the venue, and it is announced exactly
if the cache was looked into. -/
theorem establish_of_miss (hnone : options.snapshot = none)
    (hmiss : s.looksUp options = true → surroundings.published = none) :
    s.establish surroundings block options.start =
      s.build surroundings block (s.looksUp options) := by
  rw [StartOptions.start, hnone]
  rw [looksUp] at hmiss ⊢
  cases hfresh : options.fresh with
  | true => rfl
  | false =>
      cases hslave : s.settings.sharesAs .slave with
      | false => exact establish_of_unshared hslave
      | true =>
          exact establish_of_unpublished hslave (hmiss (by rw [hfresh, hslave]; rfl))

/-- The search for a first snapshot, on a subscriber that is awake. Whatever it
holds, and whatever the cache answers: a snapshot that the caller brings is taken
without asking for anything else; the record of the cache is taken by a slave that
shares, with its block, and the registration starts at the newest processed block of
the group or at the block of the record; otherwise the venue is asked once. If it
fails, nothing else happens; if not, the snapshot is taken, and announced if the
cache was looked into. A snapshot that is taken is held whether or not the one
registration is accepted, and in a fleet nothing changes but by the effects. -/
theorem establish_once (s : Subscriber S) (ha : s.replica.inactive = false) (world : Outside S)
    (block : Nat) (options : StartOptions S) :
    let o := s.establish (s.surroundings world) block options.start
    let record := recordOf s.venue.codec (world.answer .record)
    let stored (x : S) : List (Effect S) :=
      if s.settings.sharesAs .master then [.store block x] else []
    let announced : List (Effect S) := if s.looksUp options then [.announce block] else []
    (∀ x, options.snapshot = some x →
        o = ⟨s.holding x block, stored x ++ [.register block], world.registration⟩)
      ∧ (∀ r, options.snapshot = none → s.looksUp options = true → record = some r →
        o = ⟨s.holding r.snapshot r.block,
          [.register ((latestOf (world.answer .latest)).getD r.block)], world.registration⟩)
      ∧ (options.snapshot = none → (s.looksUp options = true → record = none) →
        (∀ e, world.source block = .error e → o = ⟨s, [.generate block], .error e⟩)
          ∧ ∀ x, world.source block = .ok x →
            o = ⟨s.holding x block,
              .generate block :: stored x ++ announced ++ [.register block],
              world.registration⟩)
      ∧ ∀ (f : Fleet S) (i : Nat) (m : Member S), f.member? i = some m → m.subscriber = s →
        f.outside m = world →
          f.obey (.member i (.establish block options.start)) = (.outcome o.result,
            (f.modify i fun m => { m with subscriber := o.subscriber }).recorded i s
              o.effects) := by
  intro o record stored announced
  refine ⟨fun x hx => ?_, fun r hnone hlooks hr => ?_, fun hnone hmiss => ⟨fun e he => ?_,
    fun x hx => ?_⟩, fun f i m hm hs hworld => ?_⟩
  · have hstart : options.start = .supplied x := by rw [StartOptions.start, hx]
    change s.establish _ block options.start = _
    rw [hstart]
    exact adopt_awake ha x block block
  · exact establish_of_hit ha hnone hlooks hr
  · exact (establish_of_miss hnone hmiss).trans (build_of_error he _)
  · exact (establish_of_miss hnone hmiss).trans (build_of_ok ha hx _)
  · subst hs hworld
    have halike : m.subscriber.Alike o.subscriber :=
      m.subscriber.establish_alike _ block options.start
    rw [Fleet.obey, hm]
    change (Reply.outcome o.result, f.commit i o.subscriber o.effects) = _
    rw [f.commit_recorded i o.subscriber (m.subscriber.establish_immediate _ block options.start),
      Fleet.recorded_alike halike]

/-- A slave with an older snapshot, and a registry that turns it down. The record of
block 5 in the cache is taken at block 9, and with a broken record a snapshot is
built and announced. -/
theorem establish_once_rejected :
    let s := (new ⟨"g", "n"⟩ (Counter.venue 7)
      { Settings.default with role := .slave, shareCache := true }).holding ⟨1⟩ 2
    let down : Failure := .plain .delivery "no route for g:n"
    let world (text : String) : Outside Counter := ⟨fun _ => .ok ⟨4⟩, .error down,
      fun | .record => .ok (some text) | .latest => .ok (some " 12\n")⟩
    let readable := "\x7b\"blockNumber\":5,\"snapshot\":\x7b\"count\":3\x7d\x7d"
    let usual : StartOptions Counter := ⟨none, false⟩
    s.establish (s.surroundings (world readable)) 9 usual.start =
        ⟨s.holding ⟨3⟩ 5, [.register 12], .error down⟩
      ∧ s.establish (s.surroundings (world "5")) 9 usual.start =
        ⟨s.holding ⟨4⟩ 9, [.generate 9, .announce 9, .register 9], .error down⟩ := by
  intro s down world readable usual
  have hlooks : s.looksUp usual = true := rfl
  have hrecord : recordOf Counter.codec (.ok (some readable)) = some ⟨5, ⟨3⟩⟩ := by decide +kernel
  have hbroken : recordOf Counter.codec (.ok (some "5")) = none := by decide +kernel
  have hlatest : latestOf (.ok (some " 12\n")) = some 12 := by decide +kernel
  obtain ⟨-, hhit, -, -⟩ := establish_once s rfl (world readable) 9 usual
  obtain ⟨-, -, hmiss, -⟩ := establish_once s rfl (world "5") 9 usual
  refine ⟨(hhit _ rfl hlooks hrecord).trans ?_, ((hmiss rfl fun _ => hbroken).2 ⟨4⟩ rfl).trans rfl⟩
  change (⟨_, [.register ((latestOf (.ok (some " 12\n"))).getD 5)], _⟩ : Outcome Counter) = _
  rw [hlatest]
  rfl

end Subscriber

end ChainReplica
