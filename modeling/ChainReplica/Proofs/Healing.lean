import ChainReplica.Fleet.Command
import ChainReplica.Proofs.Attempts
import ChainReplica.Proofs.Preservation
import ChainReplica.Venue.Counter

/-!
# Where a missing snapshot is rebuilt

A master without a snapshot asks for a job that rebuilds it, at the newest block
it has seen. While the job is alive others with its key are not accepted, so the
block stays that of the first request, however many batches come before an
attempt succeeds. The rebuilt snapshot is therefore new enough for every block
that was delivered if and only if no batch after the first request tells of a
newer one (`Fleet.rebuilt_covers_iff`); `Fleet.rebuilt_behind` is a run where one
does.

`Vigil` is a fleet under watch: it notes, for one member, the blocks of every
batch that was accepted since the member last held a snapshot.
-/

namespace ChainReplica

variable {S : Type}

/-! ## Turns of a run -/

/-- What can happen to a master on its own. -/
inductive Turn where
  | update (logs : List Log) (headers : Headers)
  | wait (span : Nat)
  /-- The jobs that are due are attempted. -/
  | attempt

namespace Fleet

variable {f : Fleet S} {i : Nat} {s : Subscriber S} {block : Nat}

def turn (f : Fleet S) (i : Nat) : Turn → Fleet S
  | .update logs headers => (f.obey (.member i (.update logs headers))).2
  | .wait span => (f.obey (.advance span)).2
  | .attempt => f.runJobs

/-- The blocks that a turn delivers to a member: those of a batch that it does
not reject. -/
def deliveries (f : Fleet S) (i : Nat) : Turn → List (List Nat)
  | .update logs headers => match f.member? i with
    | none => []
    | some m => if m.subscriber.Rejects logs headers then [] else [delivered logs headers]
  | _ => []

def holds (f : Fleet S) (i : Nat) : Bool :=
  (f.member? i).any fun m => m.subscriber.replica.hasSnapshot

/-- A master that holds nothing stands where the subscriber stood, and its jobs
are at a block. -/
structure Waiting (f : Fleet S) (i : Nat) (s : Subscriber S) (block : Nat) : Prop where
  member : ∃ m, f.member? i = some m ∧ s.Alike m.subscriber ∧ m.subscriber.replica.Bare
    ∧ m.subscriber.replica.pointer = s.replica.pointer
  jobs : ∃ scheduler, f.healing = .retried scheduler ∧ scheduler.Requested i s.healKey block

theorem Holding.holds (h : f.Holding i) : f.holds i = true := by
  obtain ⟨m, hm, hheld⟩ := h
  rw [Fleet.holds, hm]
  exact hheld.2

theorem Waiting.holds (h : f.Waiting i s block) : f.holds i = false := by
  obtain ⟨m, hm, -, hbare, -⟩ := h.member
  rw [Fleet.holds, hm]
  exact hbare.2

theorem turn_update {m : Member S} (hm : f.member? i = some m) (logs : List Log)
    (headers : Headers) :
    f.turn i (.update logs headers) =
      f.commit i (m.subscriber.update m.source logs headers).subscriber
        (m.subscriber.update m.source logs headers).effects := by
  simp only [turn, obey, hm, obeyMember]

theorem Holding.turn (h : f.Holding i) (t : Turn) : (f.turn i t).Holding i := by
  obtain ⟨m, hm, hheld⟩ := h
  cases t with
  | update logs headers =>
      rw [turn_update hm]
      obtain ⟨calls, hcommit⟩ := member?_commit_self hm _
      exact ⟨_, hcommit, Subscriber.update_holds hheld m.source⟩
  | wait span => exact ⟨m, hm, hheld⟩
  | attempt =>
      change f.runJobs.Holding i
      cases hs : f.healing with
      | listed jobs =>
          rw [runJobs, hs]
          exact ⟨m, hm, hheld⟩
      | retried scheduler =>
          obtain ⟨m', -, hm', hmends, -⟩ := runJobs_mends hm hheld.1 hs
          exact ⟨m', hm', hmends.eq_of_holds hheld ▸ hheld⟩

theorem commit_requested {scheduler : Scheduler HealJob} (hs : f.healing = .retried scheduler)
    (hjobs : scheduler.Requested i s.healKey block) {asked : List (Effect S)}
    (hasked : AsksNoJob asked) (newest : Nat) :
    ∃ left, (f.commit i s (asked ++ if 0 < newest then [.heal newest] else [])).healing
        = .retried left
      ∧ left.Requested i s.healKey (if 0 < block then block else newest) := by
  by_cases hpos : 0 < newest
  · rw [if_pos hpos]
    obtain ⟨now, hleft⟩ := commit_heal_healing (j := i) (s := s) hs hasked newest
    exact ⟨_, hleft, hjobs.submit hpos⟩
  · rw [if_neg hpos, List.append_nil]
    refine ⟨scheduler, (commit_healing hasked).trans hs, ?_⟩
    have hsame : (if 0 < block then block else newest) = block := by
      split <;> omega
    rw [hsame]
    exact hjobs

/-- A master that holds nothing finds a first snapshot in a turn, or goes on
without, and its job stays at the block of the first request. -/
theorem Waiting.turn (h : f.Waiting i s block) (hrole : s.settings.role = .master) (t : Turn) :
    (f.turn i t).Holding i
      ∨ (f.turn i t).Waiting i s (requested s.replica.pointer block (f.deliveries i t)) := by
  obtain ⟨⟨m, hm, halike, hbare, hpointer⟩, scheduler, hs, hjobs⟩ := h
  cases t with
  | wait span => exact Or.inr ⟨⟨m, hm, halike, hbare, hpointer⟩, scheduler, hs, hjobs⟩
  | attempt =>
      obtain ⟨m', left, hm', hmends, hleft, hfinished, hold, hnew⟩ := runJobs_mends hm hbare.1 hs
      rcases Replica.bare_or_holds (hmends.awake hbare.1) with hstill | hheld
      · have hsame := hmends.eq_of_bare hstill
        refine Or.inr ⟨⟨m', hm', ?_⟩, left, hleft, hjobs.of_same hfinished hold fun t ht hown => ?_⟩
        · rw [hsame]
          exact ⟨halike, hbare, hpointer⟩
        · exact (hnew t ht hown).resolve_left fun hheld => nomatch hstill.2.symm.trans hheld.2
      · exact Or.inl ⟨m', hm', hheld⟩
  | update logs headers =>
      rw [turn_update hm]
      simp only [deliveries, hm]
      by_cases hrejects : m.subscriber.Rejects logs headers
      · rw [if_pos hrejects, Subscriber.update_awake hbare.1, if_pos hrejects]
        obtain ⟨calls, hcommit⟩ := member?_commit_self (s := m.subscriber) hm []
        exact Or.inr ⟨⟨_, hcommit, halike, hbare, hpointer⟩, scheduler, hs, hjobs⟩
      · rw [if_neg hrejects]
        have hmaster : m.subscriber.settings.role = .master := by rw [halike.settings, hrole]
        have hupdate := Subscriber.update_bare hbare hmaster hrejects m.source
        generalize m.subscriber.update m.source logs headers = o at hupdate
        obtain ⟨calls, hcommit⟩ := member?_commit_self (s := o.subscriber) hm o.effects
        rcases hupdate with hheld | ⟨hsame, asked, hasked, heffects⟩
        · exact Or.inl ⟨_, hcommit, hheld⟩
        · have hstill : s.Alike o.subscriber := by
            rw [hsame]
            exact halike.trans ⟨rfl, rfl, rfl⟩
          refine Or.inr ⟨⟨_, hcommit, hstill, ?_⟩, ?_⟩
          · rw [hsame]
            exact ⟨hbare, hpointer⟩
          · rw [heffects, ← hstill.healKey, hpointer]
            exact commit_requested hs (hstill.healKey ▸ hjobs) hasked _

/-- The jobs of a master that holds nothing install a snapshot at their block. -/
theorem Waiting.rebuilt (h : f.Waiting i s block) {m : Member S}
    (hm : f.runJobs.member? i = some m) (hhas : m.subscriber.replica.hasSnapshot = true) :
    0 < block ∧ m.subscriber.replica.pointer = block := by
  obtain ⟨⟨m₀, hm₀, -, hbare, -⟩, scheduler, hs, hjobs⟩ := h
  obtain ⟨m', -, hm', hmends, -⟩ := runJobs_mends hm₀ hbare.1 hs
  obtain rfl : m' = m := Option.some.inj (hm'.symm.trans hm)
  generalize m'.subscriber = t at hmends hhas
  cases hmends with
  | same => cases hbare.2.symm.trans hhas
  | @installed installed x hjob _ =>
      obtain ⟨t, ht, hown, hblock⟩ := hjob
      obtain ⟨hpos, -, hjob⟩ := hjobs.own t ht (Or.inr hown)
      refine ⟨hpos, ?_⟩
      change installed = block
      rw [← hblock, hjob]

end Fleet

/-! ## Runs under watch -/

/-- A fleet under watch, with the blocks of every batch that a member accepted
since it last held a snapshot. -/
structure Vigil (S : Type) where
  fleet : Fleet S
  missed : List (List Nat)

namespace Vigil

/-- Watches a turn of the member at an index. -/
def turn (i : Nat) (v : Vigil S) (t : Turn) : Vigil S where
  fleet := v.fleet.turn i t
  missed := if (v.fleet.turn i t).holds i then [] else v.missed ++ v.fleet.deliveries i t

def run (i : Nat) (v : Vigil S) (turns : List Turn) : Vigil S := turns.foldl (turn i) v

variable {v : Vigil S} {i : Nat} {s : Subscriber S}

theorem waiting_turn (hrole : s.settings.role = .master)
    (h : v.fleet.Waiting i s (requested s.replica.pointer 0 v.missed)) (t : Turn) :
    (v.turn i t).fleet.Holding i
      ∨ (v.turn i t).fleet.Waiting i s (requested s.replica.pointer 0 (v.turn i t).missed) := by
  refine (h.turn hrole t).imp_right fun hwaiting => ?_
  have hmissed : (v.turn i t).missed = v.missed ++ v.fleet.deliveries i t := by
    rw [turn, if_neg (Bool.eq_false_iff.mp hwaiting.holds)]
  rw [hmissed, requested, List.foldl_append]
  exact hwaiting

/-- Along a run a master that held nothing holds a snapshot, or its job is at the
block of the first request since. -/
theorem run_waiting (hrole : s.settings.role = .master) : ∀ (turns : List Turn) {v : Vigil S},
    (v.fleet.Holding i ∨ v.fleet.Waiting i s (requested s.replica.pointer 0 v.missed)) →
    (v.run i turns).fleet.Holding i
      ∨ (v.run i turns).fleet.Waiting i s (requested s.replica.pointer 0 (v.run i turns).missed)
  | [], _, h => h
  | t :: rest, v, h => by
      refine run_waiting hrole rest (v := v.turn i t) ?_
      rcases h with hheld | hwaiting
      · exact Or.inl (hheld.turn t)
      · exact waiting_turn hrole hwaiting t

end Vigil

/-! ## The rebuilt snapshot -/

namespace Fleet

/-- The fleet after turns of a member, watched from now on. -/
def watched (f : Fleet S) (i : Nat) (turns : List Turn) : Vigil S := Vigil.run i ⟨f, []⟩ turns

/-- A job installs a missing snapshot at the newest block that was seen when it
was first asked for. The snapshot is new enough for every block delivered since
one was held if and only if no batch after that tells of a newer block. -/
theorem rebuilt_covers_iff (f : Fleet S) (i : Nat) (turns : List Turn) {m rebuilt : Member S}
    {scheduler : Scheduler HealJob}
    (hm : f.member? i = some m) (hrole : m.subscriber.settings.role = .master)
    (ha : m.subscriber.replica.inactive = false) (hs : f.healing = .retried scheduler)
    (hfree : ∀ t ∈ scheduler.tasks, t.key ≠ m.subscriber.healKey ∧ t.job.member ≠ i)
    (hmissing : (f.watched i turns).fleet.holds i = false)
    (hrebuilt : (f.watched i turns).fleet.runJobs.member? i = some rebuilt)
    (hhas : rebuilt.subscriber.replica.hasSnapshot = true) :
    ∃ before first later, (f.watched i turns).missed = before ++ first :: later
      ∧ (∀ blocks ∈ before, newestOf m.subscriber.replica.pointer blocks = 0)
      ∧ rebuilt.subscriber.replica.pointer = newestOf m.subscriber.replica.pointer first
      ∧ ((∀ blocks ∈ (f.watched i turns).missed, ∀ b ∈ blocks,
            b ≤ rebuilt.subscriber.replica.pointer) ↔
          ∀ blocks ∈ later, ∀ b ∈ blocks, b ≤ rebuilt.subscriber.replica.pointer) := by
  have hstart : f.Holding i ∨ f.Waiting i m.subscriber
      (requested m.subscriber.replica.pointer 0 []) := by
    rcases Replica.bare_or_holds ha with hbare | hheld
    · refine Or.inr ⟨⟨m, hm, .refl _, hbare, rfl⟩, scheduler, hs, ?_, fun h => nomatch h⟩
      rintro t ht (hkey | hown)
      · exact absurd hkey (hfree t ht).1
      · exact absurd hown (hfree t ht).2
    · exact Or.inl ⟨m, hm, hheld⟩
  have hrun := Vigil.run_waiting hrole turns (v := ⟨f, []⟩) hstart
  change (f.watched i turns).fleet.Holding i
    ∨ (f.watched i turns).fleet.Waiting i m.subscriber
      (requested m.subscriber.replica.pointer 0 (f.watched i turns).missed) at hrun
  generalize f.watched i turns = v at hmissing hrebuilt hrun ⊢
  rcases hrun with hheld | hwaiting
  · cases hmissing.symm.trans hheld.holds
  · obtain ⟨hpos, hpointer⟩ := hwaiting.rebuilt hrebuilt hhas
    obtain ⟨before, first, later, hmissed, hbefore, hfirst⟩ := exists_first_request hpos
    rw [hfirst] at hpointer
    refine ⟨before, first, later, hmissed, hbefore, hpointer, ?_⟩
    rw [hmissed, hpointer]
    exact covered_iff_later hbefore

/-- A master that counts the logs of a contract. Its first three snapshots from
scratch fail. -/
def faltering : Fleet Counter :=
  .new [⟨.new ⟨"g", "p"⟩ (Counter.venue 0xaa) .default, Counter.supply 0 3, 0, false⟩]
    (.retried (.new 1000 60000)) Settings.default.aggregationWindow

/-- A batch without logs that tells of one block. -/
def told (block : Nat) : Turn :=
  .update [] (.ofList [⟨block, BitVec.ofNat 256 block, BitVec.ofNat 256 (block - 1), 12 * block⟩])

theorem rebuilt_covers_older :
    let v := faltering.watched 0 [told 20, .attempt, told 15, .wait 2000]
    v.missed = [[20], [15]] ∧ v.fleet.holds 0 = false
      ∧ ∃ m, v.fleet.runJobs.member? 0 = some m ∧ m.subscriber.replica.hasSnapshot = true
        ∧ ∀ blocks ∈ v.missed, ∀ b ∈ blocks, b ≤ m.subscriber.replica.pointer := by
  refine ⟨rfl, rfl, _, rfl, rfl, ?_⟩
  obtain ⟨before, first, later, hmissed, hbefore, -, hcovers⟩ :=
    rebuilt_covers_iff faltering 0 [told 20, .attempt, told 15, .wait 2000]
      rfl rfl rfl rfl nofun rfl rfl rfl
  change [[20], [15]] = before ++ first :: later at hmissed
  refine hcovers.mpr ?_
  cases before with
  | nil =>
      obtain ⟨-, hlater⟩ := List.cons.inj hmissed
      rw [← hlater]
      intro blocks hblocks b hb
      obtain rfl := List.mem_singleton.mp hblocks
      obtain rfl := List.mem_singleton.mp hb
      exact (by decide : 15 ≤ 20)
  | cons blocks rest =>
      obtain ⟨hfirst, -⟩ := List.cons.inj hmissed
      have hzero : newestOf 0 [20] = 0 := hfirst ▸ hbefore blocks List.mem_cons_self
      cases hzero

/-- A batch tells of block 10 and the next one of block 20, while snapshots from
scratch fail. The first one that does not fail is installed at block 10. -/
theorem rebuilt_behind :
    let v := faltering.watched 0 [told 10, .attempt, told 20, .wait 2000]
    v.missed = [[10], [20]] ∧ v.fleet.holds 0 = false
      ∧ ∃ m, v.fleet.runJobs.member? 0 = some m ∧ m.subscriber.replica.hasSnapshot = true
        ∧ ¬∀ blocks ∈ v.missed, ∀ b ∈ blocks, b ≤ m.subscriber.replica.pointer := by
  refine ⟨rfl, rfl, _, rfl, rfl, fun hcovers => ?_⟩
  have hnewer : 20 ≤ 10 := hcovers [20] (List.mem_cons_of_mem _ List.mem_cons_self) 20
    List.mem_cons_self
  omega

end Fleet

end ChainReplica
