import ChainReplica.Proofs.Clients
import ChainReplica.Venue.Counter

/-!
# Requests for a refresh are merged and not lost

A slave that shares does not drop its snapshot, but asks for a refresh from the
cache. `Client.refreshes_coalesce` says, for any run of such a slave: at most one
refresh waits, and one does as long as the subscriber says so; after a request one
waits, and it stays until it reads the cache, later than the request; and a refresh
leaves the replica alone, or installs the record that it has read itself, an older
one than is held only where nothing trusted is held.

The flag is set by whoever asks and cleared when the delay is over, before the cache
is read. What the flag and the tasks have to do with each other is therefore an
invariant of single turns (`Client.Coalesced`).
-/

namespace ChainReplica

variable {S : Type}

namespace Subscriber

/-- A slave that shares and is told to drop its snapshot waits for a refresh. -/
theorem refreshing_put_none {s : Subscriber S} (hslave : s.settings.sharesAs .slave = true)
    (ha : s.replica.inactive = false) (block : Nat) : (s.put none block).1.refreshing = true := by
  rw [put, if_neg (by simp [ha]), if_pos hslave, requestRefresh]
  split
  · assumption
  · rfl

theorem refreshing_rollback {s : Subscriber S} (hslave : s.settings.sharesAs .slave = true)
    (ha : s.replica.inactive = false) {block b : Nat}
    (hclear : (s.replica.rollback block).1 = .clear b) :
    (s.rollback block).1.refreshing = true := by
  have hawake : (s.replica.rollback block).2.inactive = false := by
    rw [← ha, Replica.rollback]
    split <;> rfl
  rw [rollback, if_neg (by simp [ha])]
  simp only [hclear]
  exact refreshing_put_none (s := { s with replica := (s.replica.rollback block).2 }) hslave
    hawake b

theorem refreshing_restart {s : Subscriber S} (hslave : s.settings.sharesAs .slave = true)
    (ha : s.replica.inactive = false) {block b : Nat}
    (hclear : (s.replica.restart block).1 = .clear b) :
    (s.restart block).1.refreshing = true := by
  rw [restart, if_neg (by simp [ha])]
  simp only [hclear]
  exact refreshing_put_none (s := { s with replica := (s.replica.restart block).2 }) hslave ha b

theorem take_counts (s : Subscriber S) (record : Record S) :
    s.Counts (s.take record).1 (s.take record).2 := by
  rw [take]
  split
  · exact .of_same rfl rfl
  · exact s.put_counts _ _

end Subscriber

namespace Client

variable {c c' : Client S} {e : Event S} {n : Nat}

/-! ## One refresh at most -/

/-- A refresh waits if the subscriber says so, and no other one. -/
def Coalesced (c : Client S) : Prop :=
  c.refreshes.countP Phase.isWaiting = c.subscriber.refreshing.toNat

theorem Coalesced.commit (h : c.Coalesced) {s : Subscriber S} {effects : List (Effect S)}
    (hcounts : c.subscriber.Counts s effects) : (c.commit s effects).Coalesced := by
  rw [Coalesced, countP_commit, h]
  exact hcounts.symm

theorem Coalesced.passes (h : c.Coalesced) (hpass : c.Passes e c') : c'.Coalesced := by
  cases hpass with
  | still => exact h
  | acted a hend => exact h.commit (c.subscriber.act_counts a hend)
  | wrote place answer => exact h
  | @woke n hn =>
      have hset := c.countP_set hn .reading
      have hflag := Bool.toNat_le c.subscriber.refreshing
      -- The flag counts one at most, so with this refresh gone none is left to wait.
      rw [Coalesced] at h
      simp only [Phase.isWaiting, Bool.toNat_true, Bool.toNat_false] at hset
      change (c.refreshes.set n .reading).countP Phase.isWaiting = false.toNat
      rw [Bool.toNat_false]
      omega
  | @read n hn answer =>
      have hset := c.countP_set hn (.answered c.subscriber.venue.codec answer)
      have hread : (Phase.answered c.subscriber.venue.codec answer).isWaiting = false := by
        rw [Phase.answered]
        split <;> rfl
      rw [hread] at hset
      exact Eq.trans hset h
  | @took n record hn =>
      have hset := c.countP_set hn .over
      have hleft : ({ c with refreshes := c.refreshes.set n .over } : Client S).Coalesced :=
        Eq.trans hset h
      exact hleft.commit (c.subscriber.take_counts record)

theorem Coalesced.exists_waiting (h : c.Coalesced) (hflag : c.subscriber.refreshing = true) :
    ∃ n, c.phase? n = some .waiting := by
  have hpos : 0 < c.refreshes.countP Phase.isWaiting := by
    rw [h, hflag]
    exact Nat.one_pos
  obtain ⟨phase, hphase, hwaiting⟩ := List.countP_pos_iff.mp hpos
  obtain rfl := Phase.eq_waiting hwaiting
  exact List.mem_iff_getElem?.mp hphase

/-! ## None is lost -/

/-- What becomes of a refresh in an event. -/
theorem phase?_passes {phase : Phase S} (hn : c.phase? n = some phase) (h : c.Passes e c') :
    c'.phase? n = some phase
      ∨ (phase = .waiting ∧ c'.phase? n = some .reading)
      ∨ (∃ answer, e = .read n answer ∧ phase = .reading)
      ∨ ∃ record, phase = .holding record := by
  have hset : ∀ (m : Nat) (s : Subscriber S) (next : Phase S), m ≠ n →
      (⟨s, c.refreshes.set m next, c.queued⟩ : Client S).phase? n = some phase := by
    intro m s next hne
    rw [phase?, List.getElem?_set_ne hne]
    exact hn
  cases h with
  | still => exact Or.inl hn
  | acted a _ => exact Or.inl (phase?_commit hn _ _)
  | wrote place answer => exact Or.inl hn
  | @woke m hm =>
      by_cases hmn : m = n
      · subst hmn
        obtain rfl := Option.some.inj (hn.symm.trans hm)
        exact Or.inr (Or.inl ⟨rfl, phase?_set hm _ _⟩)
      · exact Or.inl (hset m _ _ hmn)
  | @read m hm answer =>
      by_cases hmn : m = n
      · subst hmn
        exact Or.inr (Or.inr (Or.inl ⟨answer, rfl, Option.some.inj (hn.symm.trans hm)⟩))
      · exact Or.inl (hset m _ _ hmn)
  | @took m record hm =>
      by_cases hmn : m = n
      · subst hmn
        exact Or.inr (Or.inr (Or.inr ⟨record, Option.some.inj (hn.symm.trans hm)⟩))
      · exact Or.inl (phase?_commit (hset m _ _ hmn) _ _)

/-- A refresh that has not read the cache. -/
def Pending (c : Client S) (n : Nat) : Prop :=
  c.phase? n = some .waiting ∨ c.phase? n = some .reading

/-- In a run the cache answers a refresh. -/
def Reads (c : Client S) (n : Nat) (run : List (Event S)) (answer : Answer) : Prop :=
  ∃ front back, run = front ++ .read n answer :: back ∧ (c.after front).phase? n = some .reading

theorem Reads.cons {run : List (Event S)} {answer : Answer} (h : (c.pass e).Reads n run answer) :
    c.Reads n (e :: run) answer := by
  obtain ⟨front, back, hrun, hreading⟩ := h
  exact ⟨e :: front, back, by rw [hrun, List.cons_append], hreading⟩

/-- A refresh is there until it reads the cache. -/
theorem Pending.after : ∀ (run : List (Event S)) {c : Client S}, c.Pending n →
    (c.after run).Pending n ∨ ∃ answer, c.Reads n run answer
  | [], _, h => Or.inl h
  | e :: rest, c, h => by
      have hpass : (c.pass e).Pending n
          ∨ ∃ answer, e = .read n answer ∧ c.phase? n = some .reading := by
        -- Neither a refresh that waits nor one that reads holds a record, and only one
        -- that reads is answered.
        rcases h with hn | hn <;>
          obtain hsame | ⟨-, hreading⟩ | ⟨answer, he, hphase⟩ | ⟨record, hphase⟩ :=
            phase?_passes hn (c.passes e)
        · exact Or.inl (Or.inl hsame)
        · exact Or.inl (Or.inr hreading)
        · cases hphase
        · cases hphase
        · exact Or.inl (Or.inr hsame)
        · exact Or.inl (Or.inr hreading)
        · exact Or.inr ⟨answer, he, hn⟩
        · cases hphase
      rcases hpass with hpending | ⟨answer, rfl, hreading⟩
      · rcases Pending.after rest hpending with hstill | ⟨answer, hreads⟩
        · exact Or.inl hstill
        · exact Or.inr ⟨answer, hreads.cons⟩
      · exact Or.inr ⟨answer, [], rest, rfl, hreading⟩

/-! ## What a refresh takes -/

/-- What has just been started holds no record. -/
theorem holding_of_commit {s : Subscriber S} {effects : List (Effect S)} {record : Record S}
    (hn : (c.commit s effects).phase? n = some (.holding record)) :
    c.phase? n = some (.holding record) := by
  rw [phase?, commit] at hn
  by_cases hlt : n < c.refreshes.length
  · rwa [List.getElem?_append_left hlt] at hn
  · rw [List.getElem?_append_right (Nat.le_of_not_lt hlt)] at hn
    have hstarted := List.eq_of_mem_replicate (List.mem_of_getElem? hn)
    cases hstarted

theorem holding_of_set {m : Nat} {s : Subscriber S} {phase next : Phase S} {record : Record S}
    (hm : c.phase? m = some phase)
    (hn : (⟨s, c.refreshes.set m next, c.queued⟩ : Client S).phase? n = some (.holding record)) :
    (m = n ∧ next = .holding record) ∨ c.phase? n = some (.holding record) := by
  by_cases hmn : m = n
  · subst hmn
    rw [phase?_set hm] at hn
    exact Or.inl ⟨rfl, Option.some.inj hn⟩
  · rw [phase?, List.getElem?_set_ne hmn] at hn
    exact Or.inr hn

/-- A record that a refresh holds is one that it held before, or has just read. -/
theorem holding_passes {record : Record S} (h : c.Passes e c')
    (hn : c'.phase? n = some (.holding record)) :
    c.phase? n = some (.holding record)
      ∨ ∃ answer, e = .read n answer ∧ c.phase? n = some .reading
        ∧ recordOf c.subscriber.venue.codec answer = some record := by
  cases h with
  | still => exact Or.inl hn
  | acted a _ => exact Or.inl (holding_of_commit hn)
  | wrote place answer => exact Or.inl hn
  | @woke m hm =>
      rcases holding_of_set hm hn with ⟨-, hreading⟩ | hheld
      · cases hreading
      · exact Or.inl hheld
  | @took m other hm =>
      rcases holding_of_set hm (holding_of_commit hn) with ⟨-, hover⟩ | hheld
      · cases hover
      · exact Or.inl hheld
  | @read m hm answer =>
      rcases holding_of_set hm hn with ⟨rfl, hanswered⟩ | hheld
      · rw [Phase.answered] at hanswered
        split at hanswered
        · rename_i read hread
          cases hanswered
          exact Or.inr ⟨answer, rfl, hm, hread⟩
        · cases hanswered
      · exact Or.inl hheld

/-- Along a run, a record that a refresh holds in the end has been read by it. -/
theorem holding_after : ∀ (run : List (Event S)) {c : Client S} {record : Record S},
    (c.after run).phase? n = some (.holding record) →
    c.phase? n = some (.holding record)
      ∨ ∃ answer, c.Reads n run answer
        ∧ recordOf c.subscriber.venue.codec answer = some record
  | [], _, _, h => Or.inl h
  | e :: rest, c, record, h => by
      rcases holding_after rest h with hheld | ⟨answer, hreads, hrecord⟩
      · rcases holding_passes (c.passes e) hheld with hbefore | ⟨answer, rfl, hreading, hrecord⟩
        · exact Or.inl hbefore
        · exact Or.inr ⟨answer, ⟨[], rest, rfl, hreading⟩, hrecord⟩
      · rw [(c.passes e).alike.venue] at hrecord
        exact Or.inr ⟨answer, hreads.cons, hrecord⟩

/-- What a refresh does to the replica when it gets its turn. -/
theorem take_replica (s : Subscriber S) (record : Record S) :
    (s.take record).1.replica = s.replica
      ∨ ((s.take record).1.replica = s.replica.apply (some record.snapshot) record.block
        ∧ (record.block < s.replica.pointer →
          s.replica.hasSnapshot = false ∨ s.replica.invalid = true)) := by
  rw [Subscriber.take]
  split
  · exact Or.inl rfl
  · rename_i hrank
    rw [Subscriber.put]
    split
    · exact Or.inl rfl
    · refine Or.inr ⟨rfl, fun hlt => ?_⟩
      have huntrusted : s.replica.trusted = false := by
        simpa [Subscriber.outranks, hlt] using hrank
      rw [Replica.trusted] at huntrusted
      cases hhas : s.replica.hasSnapshot with
      | false => exact Or.inl rfl
      | true => exact Or.inr (by simpa [hhas] using huntrusted)

/-! ## Runs of a slave that shares -/

/-- Whether an event tells a subscriber that is awake to drop its snapshot. -/
def Clears (c : Client S) : Event S → Prop
  | .obey (.put none _) _ => c.subscriber.replica.inactive = false
  | .obey (.rollback block) _ =>
    c.subscriber.replica.inactive = false
      ∧ ∃ b, (c.subscriber.replica.rollback block).1 = .clear b
  | .obey (.restart block) _ =>
    c.subscriber.replica.inactive = false
      ∧ ∃ b, (c.subscriber.replica.restart block).1 = .clear b
  | _ => False

theorem refreshing_of_clears (hslave : c.subscriber.settings.sharesAs .slave = true)
    (h : c.Clears e) : (c.pass e).subscriber.refreshing = true := by
  cases e with
  | obey command world =>
      cases command with
      | put snapshot block =>
          cases snapshot with
          | none => exact Subscriber.refreshing_put_none hslave h block
          | some x => cases h
      | rollback block =>
          obtain ⟨ha, b, hclear⟩ := h
          exact Subscriber.refreshing_rollback hslave ha hclear
      | restart block =>
          obtain ⟨ha, b, hclear⟩ := h
          exact Subscriber.refreshing_restart hslave ha hclear
      | _ => cases h
  | _ => cases h

/-- The refreshes of a slave that shares, in any run: one waits exactly if the
subscriber says so, and never two; after a request to drop the snapshot one waits,
and is there until the cache answers it; a refresh leaves the replica as it is, or
installs the record that it has read, which is older than the pointer only if no
snapshot was held or the one held was not trusted. -/
theorem refreshes_coalesce (id : Subscription) (venue : Venue S) (settings : Settings)
    (hslave : settings.sharesAs .slave = true) (run : List (Event S)) :
    let start := Client.new (.new id venue settings)
    let c := start.after run
    let replica := c.subscriber.replica
    c.refreshes.countP Phase.isWaiting = c.subscriber.refreshing.toNat
      ∧ (∀ e, c.Clears e → ∃ n, (c.pass e).phase? n = some .waiting
        ∧ ∀ later, ((c.pass e).after later).Pending n ∨ ∃ answer, (c.pass e).Reads n later answer)
      ∧ ∀ n, (c.pass (.wake n)).subscriber.replica = replica
        ∧ (∀ answer, (c.pass (.read n answer)).subscriber.replica = replica)
        ∧ ((c.pass (.take n)).subscriber.replica = replica
          ∨ ∃ answer record, start.Reads n run answer
            ∧ recordOf venue.codec answer = some record
            ∧ (c.pass (.take n)).subscriber.replica =
              replica.apply (some record.snapshot) record.block
            ∧ (record.block < replica.pointer →
              replica.hasSnapshot = false ∨ replica.invalid = true)) := by
  intro start c replica
  have hcoalesced : c.Coalesced := after_keeps Coalesced.passes run rfl
  have hsettings : c.subscriber.settings = settings := (start.after_alike run).settings
  refine ⟨hcoalesced, fun e hclears => ?_, fun n => ⟨?_, fun answer => ?_, ?_⟩⟩
  · have hflag := refreshing_of_clears (hsettings ▸ hslave) hclears
    obtain ⟨n, hn⟩ := (hcoalesced.passes (c.passes e)).exists_waiting hflag
    exact ⟨n, hn, fun later => Pending.after later (Or.inl hn)⟩
  · by_cases hn : c.phase? n = some .waiting
    · rw [pass_wake hn]
      rfl
    · rw [pass_wake_of_ne hn]
  · by_cases hn : c.phase? n = some .reading
    · rw [pass_read hn]
    · rw [pass_read_of_ne hn]
  · by_cases hn : ∃ record, c.phase? n = some (.holding record)
    · obtain ⟨record, hn⟩ := hn
      rw [pass_take hn]
      refine (take_replica c.subscriber record).imp_right fun ⟨hinstalled, holder⟩ => ?_
      rcases holding_after run hn with hheld | ⟨answer, hreads, hrecord⟩
      · cases hheld
      · exact ⟨answer, record, hreads, hrecord, hinstalled, holder⟩
    · rw [pass_take_of_ne (not_exists.mp hn)]
      exact Or.inl rfl

/-- A slave that shares and has started nothing. -/
def sharing : Client Counter :=
  .new (.new ⟨"g", "n"⟩ (Counter.venue 7)
    { Settings.default with role := .slave, shareCache := true })

/-- A command to which the cache has nothing to say. -/
def quietly (command : MemberCommand Counter) : Event Counter :=
  .obey command ⟨fun _ => .ok ⟨0⟩, .ok (), fun _ => .ok none⟩

/-- A second request comes while the first refresh reads the cache. -/
theorem refreshes_coalesce_late :
    let c := sharing.after [quietly (.put (some ⟨4⟩) 10), quietly (.put none 12), .wake 0]
    let e := quietly (.put none 13)
    c.phase? 0 = some .reading ∧ c.Clears e
      ∧ ∃ n, (c.pass e).phase? n = some .waiting
        ∧ ∀ later, ((c.pass e).after later).Pending n
          ∨ ∃ answer, (c.pass e).Reads n later answer := by
  intro c e
  have hclears : c.Clears e := rfl
  exact ⟨rfl, hclears, (refreshes_coalesce ⟨"g", "n"⟩ (Counter.venue 7)
    { Settings.default with role := .slave, shareCache := true } rfl _).2.1 e hclears⟩

end Client

end ChainReplica
