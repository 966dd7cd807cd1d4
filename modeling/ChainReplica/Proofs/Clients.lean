import ChainReplica.Proofs.Moments
import ChainReplica.Proofs.Roles

/-!
# A subscriber and its tasks

A `Client` is one subscriber with what it has started: its refreshes, each as far
as it has come, and the writes to the cache that have not run. A refresh takes
three turns. Its delay is over, the cache answers, and the record that was read is
taken; anything may happen between two of them. An `Event` is a command, the
attempt of a job, or one turn of a task.

What the world says is part of an event, so that nothing is assumed about it: the
cache may answer with what another process has published, with a text that is not
readable, or with a failure. How long a task waits before its turn is left open.
-/

namespace ChainReplica

variable {S : Type}

/-! ## What the cache answers -/

/-- What the cache answers to a call that reads it. -/
abbrev Answer := Except Failure (Option String)

/-- The record in an answer, if there is a readable one. -/
def recordOf (codec : Codec S) : Answer → Option (Record S)
  | .ok (some text) => (Record.decode codec text).toOption
  | _ => none

/-- The newest processed block in an answer, if there is a readable one. -/
def latestOf : Answer → Option Nat
  | .ok (some text) => Store.readLatest? text
  | _ => none

/-- A text that the search for a first snapshot may read. -/
inductive Query where
  /-- The published snapshot. -/
  | record
  /-- The newest block that the masters of the group have processed. -/
  | latest
  deriving DecidableEq, Repr

def Query.key (id : Subscription) : Query → Subscription
  | .record => id
  | .latest => Store.latestKey id.group

/-- What the world answers during a command. -/
structure Outside (S : Type) where
  source : Source S
  registration : Except Failure Unit
  answer : Query → Answer

/-- What a subscriber makes of the answers. -/
def Subscriber.surroundings (s : Subscriber S) (world : Outside S) : Surroundings S where
  source := world.source
  published := recordOf s.venue.codec (world.answer .record)
  processed := latestOf (world.answer .latest)
  registration := world.registration

/-- What the search for a first snapshot reads, in order: the published snapshot,
and the newest processed block only if there is one. -/
def Subscriber.queries (s : Subscriber S) (world : Outside S) : Start S → List Query
  | .usual =>
    if s.settings.sharesAs .slave then
      match recordOf s.venue.codec (world.answer .record) with
      | some _ => [.record, .latest]
      | none => [.record]
    else []
  | .fresh | .supplied _ => []

/-- Nothing else that the cache could say makes a difference. -/
theorem Subscriber.establish_of_queries (s : Subscriber S) {world other : Outside S}
    (block : Nat) {start : Start S} (hsource : other.source = world.source)
    (hregistration : other.registration = world.registration)
    (hanswers : ∀ q ∈ s.queries world start, other.answer q = world.answer q) :
    s.establish (s.surroundings other) block start =
      s.establish (s.surroundings world) block start := by
  cases start with
  | supplied x => simp only [establish, adopt, registered, surroundings, hregistration]
  | fresh => simp only [establish, build, registered, surroundings, hsource, hregistration]
  | usual =>
      rw [queries] at hanswers
      rw [establish, establish]
      split
      · rename_i hslave
        rw [if_pos hslave] at hanswers
        cases hrecord : recordOf s.venue.codec (world.answer .record) with
        | none =>
            rw [hrecord] at hanswers
            have hsame := hanswers .record List.mem_cons_self
            simp only [surroundings, hsame, hrecord, build, registered, hsource, hregistration]
        | some record =>
            rw [hrecord] at hanswers
            have hsame := hanswers .record List.mem_cons_self
            have hlatest := hanswers .latest (List.mem_cons_of_mem _ List.mem_cons_self)
            simp only [surroundings, hsame, hrecord, hlatest, adopt, registered, hregistration]
      · simp only [build, registered, surroundings, hsource, hregistration]

/-! ## Commands -/

def MemberCommand.action? (world : Surroundings S) : MemberCommand S → Option (Action S)
  | .establish block start => some (.establish world block start)
  | .update logs headers => some (.update ⟨world.source, logs, headers⟩)
  | .rollback block => some (.rollback block)
  | .restart block => some (.restart block)
  | .invalidate => some .invalidate
  | .inactivate => some .inactivate
  | .put snapshot block => some (.put snapshot block)
  | .read _ | .checkpoint _ | .identify => none

def Subscriber.reply (s : Subscriber S) (world : Surroundings S) : MemberCommand S → Reply
  | .establish block start => .outcome (s.establish world block start).result
  | .update logs headers => .outcome (s.update world.source logs headers).result
  | .read least => .snapshot ((s.read? least).map s.venue.codec.write)
  | .checkpoint block => .snapshot ((s.replica.history.get? block).map s.venue.codec.write)
  | .identify => .identity s.id s.settings.role s.settings.retention
  | .rollback _ | .restart _ | .invalidate | .inactivate | .put _ _ => .nothing

/-- The write to the cache that an effect starts. -/
def Subscriber.write? (s : Subscriber S) : Effect S → Option CacheWrite
  | .store block snapshot =>
    some (.set s.id (Record.encode s.venue.codec ⟨block, snapshot⟩) s.settings.cacheTtl)
  | .announce block =>
    some (.publish s.settings.discoveryChannel
      (Announcement.codec.encode ⟨s.id, block, s.venue.identifier⟩))
  | _ => none

/-! ## Refreshes -/

/-- The delay of a refresh is over: another one may be asked for. -/
def Subscriber.wake (s : Subscriber S) : Subscriber S := { s with refreshing := false }

/-- Takes a record that a refresh has read, unless it is outranked. -/
def Subscriber.take (s : Subscriber S) (record : Record S) : Subscriber S × List (Effect S) :=
  if s.outranks record then (s, []) else s.put (some record.snapshot) record.block

/-- A refresh that ends in one go. -/
theorem Subscriber.absorb_eq (s : Subscriber S) (found : Option (Record S)) :
    s.absorb found = match found with
      | none => (s.wake, [])
      | some record => s.wake.take record := by
  cases found <;> rfl

theorem Subscriber.take_alike (s : Subscriber S) (record : Record S) :
    s.Alike (s.take record).1 := by
  rw [take]
  split
  · exact .refl s
  · exact s.put_alike _ _

/-- How far a refresh has come. -/
inductive Phase (S : Type) where
  /-- It waits out its delay. -/
  | waiting
  /-- It has called the cache. -/
  | reading
  /-- It has read a record. -/
  | holding (record : Record S)
  | over

namespace Phase

def isWaiting : Phase S → Bool
  | .waiting => true
  | _ => false

theorem eq_waiting {phase : Phase S} (h : phase.isWaiting = true) : phase = .waiting := by
  cases phase with
  | waiting => rfl
  | _ => cases h

/-- After the cache has answered. -/
def answered (codec : Codec S) (answer : Answer) : Phase S :=
  match recordOf codec answer with
  | some record => .holding record
  | none => .over

end Phase

/-! ## Events -/

/-- A subscriber with what it has started. -/
structure Client (S : Type) where
  subscriber : Subscriber S
  /-- Every refresh that was asked for, in order. -/
  refreshes : List (Phase S)
  /-- Writes to the cache that have not run. -/
  queued : List CacheWrite

/-- One thing that happens to a client. -/
inductive Event (S : Type) where
  | obey (command : MemberCommand S) (world : Outside S)
  /-- A job tries to build the missing snapshot. -/
  | attempt (source : Source S) (block : Nat)
  /-- The queued write at a place runs, and the cache answers. -/
  | write (place : Nat) (answer : Except Failure Unit)
  /-- The delay of a refresh is over. -/
  | wake (n : Nat)
  /-- The cache answers a refresh. -/
  | read (n : Nat) (answer : Answer)
  /-- A refresh gets its turn with what it has read. -/
  | take (n : Nat)

inductive CacheCall where
  | get (key : Subscription)
  | write (w : CacheWrite)
  deriving DecidableEq, Repr

namespace Client

def new (s : Subscriber S) : Client S := ⟨s, [], []⟩

def phase? (c : Client S) (n : Nat) : Option (Phase S) := c.refreshes[n]?

/-- Puts the next state of the subscriber in place and starts what it asked for. -/
def commit (c : Client S) (s : Subscriber S) (effects : List (Effect S)) : Client S where
  subscriber := s
  refreshes := c.refreshes ++ .replicate (effects.countP Effect.isRefresh) .waiting
  queued := c.queued ++ effects.filterMap s.write?

/-- The tasks after an event, as far as they were there before. -/
def turned (c : Client S) : Event S → Client S
  | .obey _ _ | .attempt _ _ => c
  | .write place _ => { c with queued := c.queued.eraseIdx place }
  | .wake n => match c.phase? n with
    | some .waiting => { c with refreshes := c.refreshes.set n .reading }
    | _ => c
  | .read n answer => match c.phase? n with
    | some .reading =>
      { c with refreshes := c.refreshes.set n (.answered c.subscriber.venue.codec answer) }
    | _ => c
  | .take n => match c.phase? n with
    | some (.holding _) => { c with refreshes := c.refreshes.set n .over }
    | _ => c

/-- The subscriber after an event, and what it asks for. -/
def next (c : Client S) : Event S → Subscriber S × List (Effect S)
  | .obey command world => match command.action? (c.subscriber.surroundings world) with
    | some a => (c.subscriber.act a, c.subscriber.asked a)
    | none => (c.subscriber, [])
  | .attempt source block =>
    (c.subscriber.act (.heal source block), c.subscriber.asked (.heal source block))
  | .wake n => match c.phase? n with
    | some .waiting => (c.subscriber.wake, [])
    | _ => (c.subscriber, [])
  | .take n => match c.phase? n with
    | some (.holding record) => c.subscriber.take record
    | _ => (c.subscriber, [])
  | .write _ _ | .read _ _ => (c.subscriber, [])

def pass (c : Client S) (e : Event S) : Client S := (c.turned e).commit (c.next e).1 (c.next e).2

def after (c : Client S) : List (Event S) → Client S
  | [] => c
  | e :: rest => (c.pass e).after rest

/-- The answer to an event. An attempt answers whether the job is done. -/
def reply (c : Client S) : Event S → Reply
  | .obey command world => c.subscriber.reply (c.subscriber.surroundings world) command
  | .attempt source block =>
    .job (some (c.subscriber.healKey, (c.subscriber.heal source block).1))
  | _ => .nothing

def replies (c : Client S) : List (Event S) → List Reply
  | [] => []
  | e :: rest => c.reply e :: (c.pass e).replies rest

def calls (c : Client S) : Event S → List CacheCall
  | .obey (.establish _ start) world =>
    (c.subscriber.queries world start).map fun q => .get (q.key c.subscriber.id)
  | .read n _ => match c.phase? n with
    | some .reading => [.get c.subscriber.id]
    | _ => []
  | .write place _ => c.queued[place]?.toList.map .write
  | _ => []

variable {c : Client S} {e : Event S}

theorem after_append : ∀ (c : Client S) (front back : List (Event S)),
    c.after (front ++ back) = (c.after front).after back
  | _, [], _ => rfl
  | c, e :: rest, back => after_append (c.pass e) rest back

/-! ## The turns of tasks -/

theorem commit_nil (c : Client S) (s : Subscriber S) :
    c.commit s [] = { c with subscriber := s } := by
  simp [commit]

theorem pass_write (place : Nat) (answer : Except Failure Unit) :
    c.pass (.write place answer) = { c with queued := c.queued.eraseIdx place } :=
  commit_nil _ _

theorem phase?_set {n : Nat} {phase : Phase S} (hn : c.phase? n = some phase) (s : Subscriber S)
    (next : Phase S) :
    (⟨s, c.refreshes.set n next, c.queued⟩ : Client S).phase? n = some next :=
  List.getElem?_set_self (List.getElem?_eq_some_iff.mp hn).1

theorem phase?_commit {n : Nat} {phase : Phase S} (hn : c.phase? n = some phase)
    (s : Subscriber S) (effects : List (Effect S)) :
    (c.commit s effects).phase? n = some phase := by
  rw [phase?, commit, List.getElem?_append_left (List.getElem?_eq_some_iff.mp hn).1]
  exact hn

theorem pass_wake {n : Nat} (hn : c.phase? n = some .waiting) :
    c.pass (.wake n) = ⟨c.subscriber.wake, c.refreshes.set n .reading, c.queued⟩ := by
  simp only [pass, turned, next, hn, commit_nil]

theorem pass_read {n : Nat} (hn : c.phase? n = some .reading) (answer : Answer) :
    c.pass (.read n answer) =
      ⟨c.subscriber, c.refreshes.set n (.answered c.subscriber.venue.codec answer), c.queued⟩ := by
  simp only [pass, turned, next, hn, commit_nil]

theorem pass_take {n : Nat} {record : Record S} (hn : c.phase? n = some (.holding record)) :
    c.pass (.take n) = { c with refreshes := c.refreshes.set n .over }.commit
      (c.subscriber.take record).1 (c.subscriber.take record).2 := by
  simp only [pass, turned, next, hn]

theorem pass_wake_of_ne {n : Nat} (hn : c.phase? n ≠ some .waiting) : c.pass (.wake n) = c := by
  rw [pass, turned, next]
  split
  · exact absurd ‹_› hn
  · exact commit_nil _ _

theorem pass_read_of_ne {n : Nat} (hn : c.phase? n ≠ some .reading) (answer : Answer) :
    c.pass (.read n answer) = c := by
  rw [pass, turned, next]
  split
  · exact absurd ‹_› hn
  · exact commit_nil _ _

theorem pass_take_of_ne {n : Nat} (hn : ∀ record, c.phase? n ≠ some (.holding record)) :
    c.pass (.take n) = c := by
  rw [pass, turned, next]
  split
  · exact absurd ‹_› (hn _)
  · exact commit_nil _ _

/-- The three turns of a refresh, one right after the other. -/
theorem after_refresh {n : Nat} (hn : c.phase? n = some .waiting) (answer : Answer) :
    c.after [.wake n, .read n answer, .take n] =
      { c with refreshes := c.refreshes.set n .over }.commit
        (c.subscriber.absorb (recordOf c.subscriber.venue.codec answer)).1
        (c.subscriber.absorb (recordOf c.subscriber.venue.codec answer)).2 := by
  have hreading := phase?_set hn c.subscriber.wake .reading
  have hanswered := phase?_set hn c.subscriber.wake (.answered c.subscriber.venue.codec answer)
  simp only [after, pass_wake hn, pass_read hreading, List.set_set, Subscriber.absorb_eq]
  change (⟨_, c.refreshes.set n (.answered c.subscriber.venue.codec answer), _⟩ : Client S).pass
    (.take n) = _
  rw [Phase.answered] at hanswered ⊢
  cases hrecord : recordOf c.subscriber.venue.codec answer with
  | none =>
      rw [hrecord] at hanswered
      rw [pass_take_of_ne fun record => by rw [hanswered]; exact nofun, commit_nil]
  | some record =>
      rw [hrecord] at hanswered
      rw [pass_take hanswered, List.set_set]
      rfl

/-! ## What an event can do -/

/-- From a client to the next one, by the event. -/
inductive Passes (c : Client S) : Event S → Client S → Prop where
  /-- There is nothing to do, or no such task. -/
  | still {e : Event S} : Passes c e c
  | acted {e : Event S} (a : Action S) (hend : ∀ found, a ≠ .absorb found) :
      Passes c e (c.commit (c.subscriber.act a) (c.subscriber.asked a))
  | wrote (place : Nat) (answer : Except Failure Unit) :
      Passes c (.write place answer) { c with queued := c.queued.eraseIdx place }
  | woke {n : Nat} (hn : c.phase? n = some .waiting) :
      Passes c (.wake n) ⟨c.subscriber.wake, c.refreshes.set n .reading, c.queued⟩
  | read {n : Nat} (hn : c.phase? n = some .reading) (answer : Answer) :
      Passes c (.read n answer)
        ⟨c.subscriber, c.refreshes.set n (.answered c.subscriber.venue.codec answer), c.queued⟩
  | took {n : Nat} {record : Record S} (hn : c.phase? n = some (.holding record)) :
      Passes c (.take n) ({ c with refreshes := c.refreshes.set n .over }.commit
        (c.subscriber.take record).1 (c.subscriber.take record).2)

theorem passes_of_command {command : MemberCommand S} {world : Outside S} :
    c.Passes (.obey command world) (c.pass (.obey command world)) := by
  have hact : ∀ a, (∀ found, a ≠ .absorb found) →
      command.action? (c.subscriber.surroundings world) = some a →
      c.Passes (.obey command world) (c.pass (.obey command world)) := by
    intro a hend haction
    rw [pass, next, haction]
    exact .acted a hend
  have hnone : command.action? (c.subscriber.surroundings world) = none →
      c.Passes (.obey command world) (c.pass (.obey command world)) := by
    intro haction
    rw [pass, next, haction, commit_nil]
    exact .still
  cases command with
  | read least => exact hnone rfl
  | checkpoint block => exact hnone rfl
  | identify => exact hnone rfl
  | _ => exact hact _ (by exact nofun) rfl

/-- Everything that can happen in an event. -/
theorem passes (c : Client S) (e : Event S) : c.Passes e (c.pass e) := by
  cases e with
  | obey command world => exact passes_of_command
  | attempt source block => exact .acted (.heal source block) nofun
  | write place answer =>
      rw [pass_write]
      exact .wrote place answer
  | wake n =>
      by_cases hn : c.phase? n = some .waiting
      · rw [pass_wake hn]
        exact .woke hn
      · rw [pass_wake_of_ne hn]
        exact .still
  | read n answer =>
      by_cases hn : c.phase? n = some .reading
      · rw [pass_read hn]
        exact .read hn answer
      · rw [pass_read_of_ne hn]
        exact .still
  | take n =>
      by_cases hn : ∃ record, c.phase? n = some (.holding record)
      · obtain ⟨record, hn⟩ := hn
        rw [pass_take hn]
        exact .took hn
      · rw [pass_take_of_ne (not_exists.mp hn)]
        exact .still

/-- Nothing that happens changes what the subscriber is. -/
theorem Passes.alike {c' : Client S} (h : c.Passes e c') : c.subscriber.Alike c'.subscriber := by
  cases h with
  | still => exact .refl _
  | acted a _ => exact (Subscriber.Alike.refl _).act a
  | wrote place answer => exact .refl _
  | woke hn => exact ⟨rfl, rfl, rfl⟩
  | read hn answer => exact .refl _
  | took hn => exact c.subscriber.take_alike _

/-- What no event breaks holds after a run if it holds before. -/
theorem after_keeps {P : Client S → Prop}
    (hpass : ∀ {c c' : Client S} {e : Event S}, P c → c.Passes e c' → P c') :
    ∀ (run : List (Event S)) {c : Client S}, P c → P (c.after run)
  | [], _, h => h
  | e :: rest, c, h => after_keeps hpass rest (hpass h (c.passes e))

theorem after_alike (run : List (Event S)) (c : Client S) :
    c.subscriber.Alike (c.after run).subscriber :=
  after_keeps (P := fun d => c.subscriber.Alike d.subscriber)
    (fun h hpass => h.trans hpass.alike) run (.refl _)

/-! ## How many refreshes wait -/

theorem countP_commit (c : Client S) (s : Subscriber S) (effects : List (Effect S)) :
    (c.commit s effects).refreshes.countP Phase.isWaiting =
      c.refreshes.countP Phase.isWaiting + effects.countP Effect.isRefresh := by
  have hstarted : (List.replicate (effects.countP Effect.isRefresh)
      (Phase.waiting : Phase S)).countP Phase.isWaiting = effects.countP Effect.isRefresh :=
    List.countP_replicate
  rw [commit, List.countP_append, hstarted]

theorem countP_set {n : Nat} {phase : Phase S} (hn : c.phase? n = some phase) (next : Phase S) :
    (c.refreshes.set n next).countP Phase.isWaiting + phase.isWaiting.toNat =
      c.refreshes.countP Phase.isWaiting + next.isWaiting.toNat := by
  obtain ⟨hlt, rfl⟩ := List.getElem?_eq_some_iff.mp hn
  have hpos : c.refreshes[n].isWaiting = true → 0 < c.refreshes.countP Phase.isWaiting :=
    fun hwaiting => List.countP_pos_iff.mpr ⟨_, List.getElem_mem hlt, hwaiting⟩
  rw [List.countP_set hlt]
  cases hwaiting : c.refreshes[n].isWaiting with
  | false => cases next.isWaiting <;> rfl
  | true =>
      have := hpos hwaiting
      cases next.isWaiting <;> simp <;> omega

end Client

end ChainReplica
