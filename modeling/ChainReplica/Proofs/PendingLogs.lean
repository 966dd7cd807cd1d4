import ChainReplica.Proofs.ChangedBlocks
import ChainReplica.Proofs.Redelivery
import ChainReplica.Proofs.Runs
import ChainReplica.Venue.Counter

/-!
# Logs that are in no block yet

Under the lenient policy a log without block number is left out of the batch, but
not as if it had never been there: it ends the run before it. Logs of one block on
both sides of it (`Interrupted`) are two runs, each of which is folded onto the
same base, and what the second one keeps replaces what the first one kept.

Where no run is interrupted the log makes no difference at all, and where one is,
some venue tells it (`Subscriber.update_numbered_iff`). Block 0 is the exception:
nothing is older than it, so its runs have no base and are passed over.
-/

namespace ChainReplica

variable {S : Type} {block : Nat} {log : Log} {logs rest : List Log} {run : Run}
  {later : List Run}

/-! ## Runs with and without pending logs -/

/-- The logs that are in a block. -/
def numbered (logs : List Log) : List Log := logs.filter (·.block.isSome)

/-- Between two logs of the block there is nothing but logs without block number,
and at least one of them. -/
def Interrupted (block : Nat) (logs : List Log) : Prop :=
  ∃ front a gap b back, logs = front ++ a :: gap ++ b :: back ∧ gap ≠ []
    ∧ (∀ log ∈ gap, log.block = none) ∧ a.block = some block ∧ b.block = some block

/-- The runs of all blocks but block 0. -/
def pastGenesis (runs : List Run) : List Run := runs.filter (0 < ·.block)

theorem numbered_cons_of_some (h : log.block = some block) :
    numbered (log :: rest) = log :: numbered rest :=
  List.filter_cons_of_pos (by rw [h]; rfl)

theorem numbered_cons_of_none (h : log.block = none) : numbered (log :: rest) = numbered rest :=
  List.filter_cons_of_neg (by rw [h]; decide)

theorem pastGenesis_cons_of_pos (h : 0 < run.block) :
    pastGenesis (run :: later) = run :: pastGenesis later :=
  List.filter_cons_of_pos (decide_eq_true h)

theorem pastGenesis_cons_of_zero (h : run.block = 0) :
    pastGenesis (run :: later) = pastGenesis later :=
  List.filter_cons_of_neg (by rw [h]; decide)

theorem Interrupted.cons (h : Interrupted block rest) : Interrupted block (log :: rest) := by
  obtain ⟨front, a, gap, b, back, rfl, h⟩ := h
  exact ⟨log :: front, a, gap, b, back, rfl, h⟩

theorem Interrupted.of_take {n : Nat} (h : Interrupted block (logs.take n)) :
    Interrupted block logs := by
  obtain ⟨front, a, gap, b, back, htake, h⟩ := h
  refine ⟨front, a, gap, b, back ++ logs.drop n, ?_, h⟩
  calc logs = logs.take n ++ logs.drop n := (List.take_append_drop n logs).symm
    _ = _ := by rw [htake]; simp only [List.append_assoc, List.cons_append]

theorem head_numbered (hlog : log.block = some block) (h : ¬Interrupted block (log :: rest)) :
    (numbered rest).head?.bind (·.block) = some block ↔
      rest.head?.bind (·.block) = some block := by
  constructor
  · intro hhead
    obtain ⟨next, hnext, hblock⟩ := Option.bind_eq_some_iff.mp hhead
    rw [numbered, List.head?_filter] at hnext
    -- What stands before the next log in a block is a gap, if there is anything.
    obtain ⟨-, gap, back, rfl, hgap⟩ := List.find?_eq_some_iff_append.mp hnext
    cases gap with
    | nil => exact hblock
    | cons first gap =>
        have hnone : ∀ l ∈ first :: gap, l.block = none := by simpa using hgap
        exact absurd
          ⟨[], log, first :: gap, next, back, rfl, List.cons_ne_nil _ _, hnone, hlog, hblock⟩ h
  · intro hhead
    obtain ⟨next, hnext, hblock⟩ := Option.bind_eq_some_iff.mp hhead
    obtain ⟨back, rfl⟩ := List.head?_eq_some_iff.mp hnext
    rw [numbered_cons_of_some hblock]
    exact hblock

theorem pastGenesis_runs_zero (hlog : log.block = some 0) :
    pastGenesis (runs (log :: rest)) = pastGenesis (runs rest) := by
  by_cases hhead : rest.head?.bind (·.block) = some 0
  · obtain ⟨first, later, hruns⟩ := runs_of_head hhead
    rw [runs_cons_same hlog hhead, hruns, pushFront, pastGenesis_cons_of_zero rfl,
      pastGenesis_cons_of_zero rfl]
  · rw [runs_cons_other hlog hhead, pastGenesis_cons_of_zero rfl]

theorem pastGenesis_runs_cons (hlog : log.block = some block) (hpos : 0 < block) :
    pastGenesis (runs (log :: rest)) =
      if rest.head?.bind (·.block) = some block then pushFront block log (pastGenesis (runs rest))
      else ⟨block, [log]⟩ :: pastGenesis (runs rest) := by
  split
  · rename_i hhead
    obtain ⟨first, later, hruns⟩ := runs_of_head hhead
    rw [runs_cons_same hlog hhead, hruns, pushFront, pastGenesis_cons_of_pos hpos,
      pastGenesis_cons_of_pos hpos, pushFront]
  · rename_i hhead
    rw [runs_cons_other hlog hhead, pastGenesis_cons_of_pos hpos]

/-- Where no run is interrupted, the runs past block 0 are the same without the
pending logs. -/
theorem pastGenesis_numbered : ∀ {logs : List Log},
    (∀ block, 0 < block → ¬Interrupted block logs) →
    pastGenesis (runs (numbered logs)) = pastGenesis (runs logs)
  | [], _ => rfl
  | log :: rest, h => by
      have ih : pastGenesis (runs (numbered rest)) = pastGenesis (runs rest) :=
        pastGenesis_numbered fun block hpos hrest => h block hpos hrest.cons
      cases hlog : log.block with
      | none =>
          rw [numbered_cons_of_none hlog, runs_cons_none hlog, ih]
      | some block =>
          rw [numbered_cons_of_some hlog]
          rcases Nat.eq_zero_or_pos block with rfl | hpos
          · rw [pastGenesis_runs_zero hlog, pastGenesis_runs_zero hlog, ih]
          · rw [pastGenesis_runs_cons hlog hpos, pastGenesis_runs_cons hlog hpos, ih]
            simp only [head_numbered hlog (h block hpos)]

/-! ## Updates without pending logs -/

namespace Progress

variable {p : Progress S} (source : Source S) (headers : Headers)

theorem step_genesis (h : p.subscriber.replica.Holds) (hrun : run.block = 0) :
    p.step source headers run = (p, none) := by
  -- Nothing is older than block 0, and it is not newer than what was seen.
  have hbase : p.subscriber.replica.history.latestBefore 0 = none :=
    BlockMap.newest?_eq_none_iff.mpr fun _ _ => rfl
  simp only [step, h.2, hrun, hbase, Nat.max_zero, Bool.not_true, Bool.false_eq_true, if_false]

theorem replay_pastGenesis : ∀ (runs : List Run) {p : Progress S}, p.subscriber.replica.Holds →
    p.replay source headers (pastGenesis runs) = p.replay source headers runs
  | [], _, _ => rfl
  | run :: rest, p, h => by
      rcases Nat.eq_zero_or_pos run.block with hzero | hpos
      · rw [pastGenesis_cons_of_zero hzero, replay_pastGenesis rest h]
        conv_rhs => rw [replay, step_genesis source headers h hzero]
      · obtain ⟨-, hstep⟩ := step_held source headers run h
        rw [pastGenesis_cons_of_pos hpos, replay, replay]
        generalize p.step source headers run = q at hstep
        obtain ⟨q, failure⟩ := q
        cases ht : p.subscriber.replica.take p.subscriber.venue headers run with
        | error e =>
            rw [ht] at hstep
            obtain ⟨rfl, -⟩ := hstep
            rfl
        | ok r =>
            rw [ht] at hstep
            obtain ⟨rfl, hsub⟩ := hstep
            have hq : q.subscriber.replica.Holds := by
              rw [hsub]
              exact h.take ht
            exact replay_pastGenesis rest hq

end Progress

theorem Subscriber.update_of_pastGenesis {s : Subscriber S} (h : s.replica.Holds)
    (hlenient : s.settings.policy = .lenient) {logs' : List Log}
    (hruns : pastGenesis (runs logs') = pastGenesis (runs logs)) (source : Source S)
    (headers : Headers) : s.update source logs' headers = s.update source logs headers := by
  have haccepts : ∀ logs, ¬s.Rejects logs headers := fun logs => accepts_of_lenient hlenient
  have hstart : (Progress.start s).subscriber.replica.Holds := h
  rw [update_awake h.1, update_awake h.1, if_neg (haccepts _), if_neg (haccepts _), applyBatch,
    applyBatch, ← Progress.replay_pastGenesis source headers (runs logs') hstart, hruns,
    Progress.replay_pastGenesis source headers (runs logs) hstart]

/-! ## A venue that tells -/

/-- The venue that counts the logs of a block. -/
def Counter.ofBlock (block : Nat) : Venue Counter :=
  .ofRule [] (fun c log _ => .ok (if log.block = some block then some ⟨c.count + 1⟩ else none))
    codec

namespace Counter

variable {headers : Headers} {header : Option Header} {base : Counter} {n : Nat}

theorem foldOnto_ofBlock : ∀ {logs : List Log} {changed : Option Counter}, logs ≠ [] →
    (∀ log ∈ logs, log.block = some n) →
    foldOnto (ofBlock block).rule header base changed logs =
      .ok (if n = block then some ⟨(changed.getD base).count + logs.length⟩ else changed)
  | log :: rest, changed, _, hlogs => by
      obtain ⟨hlog, hrest⟩ := List.forall_mem_cons.mp hlogs
      have hrule : (ofBlock block).rule (changed.getD base) log header =
          .ok (if n = block then some ⟨(changed.getD base).count + 1⟩ else none) := by
        change Except.ok (if log.block = some block then _ else _) = _
        simp only [hlog, Option.some.injEq]
      rw [foldOnto, hrule]
      by_cases hn : n = block
      · simp only [if_pos hn]
        cases rest with
        | nil => rfl
        | cons next rest =>
            rw [foldOnto_ofBlock (List.cons_ne_nil _ _) hrest, if_pos hn, Option.getD_some,
              List.length_cons (a := log), Nat.add_assoc, Nat.add_comm 1]
      · simp only [if_neg hn]
        cases rest with
        | nil => rfl
        | cons next rest => rw [foldOnto_ofBlock (List.cons_ne_nil _ _) hrest, if_neg hn]

theorem fold_ofBlock (hne : logs ≠ []) (hlogs : ∀ log ∈ logs, log.block = some n) :
    (ofBlock block).fold base logs header =
      .ok (if n = block then some ⟨base.count + logs.length⟩ else none) :=
  foldOnto_ofBlock hne hlogs

end Counter

namespace Replica

variable {x : S} {base : Nat × S} {r : Replica S}

theorem latestBefore_keep (hwindow : run.block ≤ r.history.retention)
    (h : r.history.latestBefore run.block = some base) :
    (r.keep x run.block).history.latestBefore run.block = some base := by
  obtain ⟨⟨hmem, hlt⟩, hmax⟩ := History.latestBefore_eq_some_iff.mp h
  have hkept : ∀ e : Nat × S, e.1 < run.block →
      (e ∈ (r.keep x run.block).entries ↔ e ∈ r.entries) := by
    -- Pruning against the block reaches back to block 0.
    rintro ⟨n, y⟩ hn
    have hsame : (r.keep x run.block).history.get? n = r.history.get? n := by
      rw [get?_keep (Nat.ne_of_lt hn), Nat.sub_eq_zero_of_le hwindow,
        if_neg fun hdropped => Nat.not_lt_zero n hdropped.2]
    rw [entries, entries, ← BlockMap.get?_eq_some_iff, ← BlockMap.get?_eq_some_iff]
    exact iff_of_eq (congrArg (· = some y) hsame)
  refine History.latestBefore_eq_some_iff.mpr ⟨⟨(hkept base hlt).mpr hmem, hlt⟩, ?_⟩
  intro e he hbefore
  exact hmax e ((hkept e hbefore).mp he) hbefore

/-- The count that is kept is that of the last run of the block. -/
theorem replay_ofBlock (headers : Headers) {base : Nat × Counter} {last : Run}
    (hlast : last.logs ≠ [] ∧ ∀ log ∈ last.logs, log.block = some last.block) :
    ∀ {runs : List Run} {r : Replica Counter},
    (∀ run ∈ runs, run.logs ≠ [] ∧ ∀ log ∈ run.logs, log.block = some run.block) →
    last.block ≤ r.history.retention → r.history.latestBefore last.block = some base →
    ∃ q, r.replay (Counter.ofBlock last.block) headers (runs ++ [last]) = (q, none)
      ∧ q.history.get? last.block = some ⟨base.2.count + last.logs.length⟩
  | [], r, _, hwindow, hbase => by
      have hfold : (Counter.ofBlock last.block).fold base.2 last.logs (headers.get? last.block) =
          .ok (some ⟨base.2.count + last.logs.length⟩) := by
        rw [Counter.fold_ofBlock hlast.1 hlast.2, if_pos rfl]
      refine ⟨r.keep ⟨base.2.count + last.logs.length⟩ last.block, ?_, ?_⟩
      · rw [List.nil_append, replay, take_of_base hbase, hfold]
        rfl
      · exact BlockMap.get?_eq_some_iff.mpr mem_keep
  | run :: rest, r, hruns, hwindow, hbase => by
      obtain ⟨⟨hne, hlogs⟩, hrest⟩ := List.forall_mem_cons.mp hruns
      have htake : ∃ r', r.take (Counter.ofBlock last.block) headers run = .ok r'
          ∧ (r' = r ∨ ∃ x, r' = r.keep x last.block) := by
        cases hbefore : r.history.latestBefore run.block with
        | none => exact ⟨r, take_of_none hbefore, Or.inl rfl⟩
        | some base' =>
            rw [take_of_base hbefore, Counter.fold_ofBlock hne hlogs]
            by_cases hblock : run.block = last.block
            · rw [if_pos hblock]
              exact ⟨_, rfl, Or.inr ⟨_, by rw [← hblock]⟩⟩
            · rw [if_neg hblock]
              exact ⟨r, rfl, Or.inl rfl⟩
      obtain ⟨r', hr', hcases⟩ := htake
      rw [List.cons_append, replay, hr']
      rcases hcases with rfl | ⟨x, rfl⟩
      · exact replay_ofBlock headers hlast hrest hwindow hbase
      · refine replay_ofBlock headers hlast hrest ?_ (latestBefore_keep hwindow hbase)
        rwa [(Framed.keep r x last).retention]

end Replica

/-! ## Interrupted runs -/

theorem runs_append_of_pending (hlog : log.block = none) :
    ∀ {front back : List Log}, runs (front ++ log :: back) = runs front ++ runs back
  | [], back => runs_cons_none hlog
  | first :: front, back => by
      have ih : runs (front ++ log :: back) = runs front ++ runs back :=
        runs_append_of_pending hlog
      have hhead : (front ++ log :: back).head?.bind (·.block) = front.head?.bind (·.block) := by
        cases front with
        | nil => exact hlog
        | cons _ _ => rfl
      rw [List.cons_append]
      cases hfirst : first.block with
      | none => rw [runs_cons_none hfirst, runs_cons_none hfirst, ih]
      | some n =>
          by_cases hsame : front.head?.bind (·.block) = some n
          · obtain ⟨logs, later, hruns⟩ := runs_of_head hsame
            rw [runs_cons_same hfirst (hhead.trans hsame), runs_cons_same hfirst hsame, ih, hruns]
            rfl
          · have hother : (front ++ log :: back).head?.bind (·.block) ≠ some n := by
              rwa [hhead]
            rw [runs_cons_other hfirst hother, runs_cons_other hfirst hsame, ih, List.cons_append]

/-- Two logs of a block at the end of a batch are in one run. -/
theorem runs_append_pair {a b : Log} (ha : a.block = some block) (hb : b.block = some block) :
    ∀ front : List Log, ∃ earlier logs,
      runs (front ++ [a, b]) = earlier ++ [⟨block, logs⟩] ∧ 2 ≤ logs.length
  | [] => by
      refine ⟨[], [a, b], ?_, Nat.le_refl 2⟩
      simp [runs, ha, hb, pushFront]
  | first :: front => by
      obtain ⟨earlier, logs, hruns, hlength⟩ := runs_append_pair ha hb front
      rw [List.cons_append]
      rcases runs_cons_cases first (front ++ [a, b]) with
        ⟨-, hcons⟩ | ⟨n, -, ⟨first', later, hsame, hcons⟩ | ⟨-, hcons⟩⟩
      · exact ⟨earlier, logs, hcons.trans hruns, hlength⟩
      · rw [hruns] at hsame
        rw [hcons]
        cases earlier with
        | nil =>
            obtain ⟨⟨rfl, rfl⟩, rfl⟩ : (block = n ∧ logs = first') ∧ [] = later := by
              simpa using hsame
            exact ⟨[], first :: logs, rfl, Nat.le_succ_of_le hlength⟩
        | cons run earlier =>
            obtain ⟨-, rfl⟩ := List.cons.inj hsame
            exact ⟨⟨n, first :: first'⟩ :: earlier, logs, rfl, hlength⟩
      · exact ⟨⟨n, [first]⟩ :: earlier, logs, by rw [hcons, hruns]; rfl, hlength⟩

/-- Up to the log that comes after the gap, the batch ends in a run of one log, and
in a longer one without the pending logs. -/
theorem Interrupted.last_run (h : Interrupted block logs) : ∃ n earlier earlier' log run,
    runs (logs.take n) = earlier ++ [⟨block, [log]⟩]
      ∧ runs (numbered (logs.take n)) = earlier' ++ [⟨block, run⟩] ∧ 2 ≤ run.length := by
  obtain ⟨front, a, gap, b, back, rfl, hne, hgap, ha, hb⟩ := h
  have htake : (front ++ a :: gap ++ b :: back).take ((front ++ a :: gap).length + 1) =
      front ++ a :: gap ++ [b] := List.take_length_add_append 1
  obtain ⟨earlier', run, hruns, hlength⟩ := runs_append_pair ha hb (numbered front)
  refine ⟨(front ++ a :: gap).length + 1, runs (front ++ a :: gap.dropLast), earlier', b, run,
    ?_, ?_, hlength⟩
  · have hparts : front ++ a :: gap ++ [b] =
        (front ++ a :: gap.dropLast) ++ gap.getLast hne :: [b] := by
      conv_lhs => rw [← List.dropLast_append_getLast hne]
      simp only [List.append_assoc, List.cons_append, List.nil_append]
    rw [htake, hparts, runs_append_of_pending (hgap _ (List.getLast_mem hne))]
    simp [runs, hb]
  · have hnone : gap.filter (·.block.isSome) = [] := by
      refine List.filter_eq_nil_iff.mpr fun log hlog => ?_
      rw [hgap log hlog]
      decide
    have hnumbered : numbered (front ++ a :: gap ++ [b]) = numbered front ++ [a, b] := by
      simp [numbered, ha, hb, hnone]
    rw [htake, hnumbered, hruns]

/-! ## Updates -/

namespace Subscriber

/-- Nothing but the empty count, which is of block 0, and the window that holds it. -/
def counting (block : Nat) : Subscriber Counter :=
  ((new ⟨"g", "n"⟩ (Counter.ofBlock block) { Settings.default with retention := block }).establish
    ⟨fun _ => .ok ⟨0⟩, none, none, .ok ()⟩ 0 (.supplied ⟨0⟩)).subscriber

theorem latestBefore_counting (hpos : 0 < block) :
    (counting block).replica.history.latestBefore block = some (0, ⟨0⟩) := by
  have hentries : ∀ e : Nat × Counter, e ∈ (counting block).replica.entries ↔ e = (0, ⟨0⟩) := by
    intro e
    refine Replica.mem_apply.trans ?_
    simp [Replica.entries, new, Replica.new, History.new, History.entries]
  refine History.latestBefore_eq_some_iff.mpr ⟨⟨(hentries _).mpr rfl, hpos⟩, ?_⟩
  intro e he _
  exact Nat.le_of_eq (congrArg Prod.fst ((hentries e).mp he))

theorem update_counting (hpos : 0 < block) {earlier : List Run} {last : List Log}
    (hruns : runs logs = earlier ++ [⟨block, last⟩]) (source : Source Counter)
    (headers : Headers) :
    ((counting block).update source logs headers).subscriber.replica.history.get? block =
      some ⟨last.length⟩ := by
  have hwhole := fun run (h : run ∈ runs logs) => logs_of_mem_runs h
  rw [hruns] at hwhole
  obtain ⟨q, hq, hcount⟩ := Replica.replay_ofBlock headers
    (hwhole ⟨block, last⟩ (by simp)) (r := (counting block).replica)
    (fun run h => hwhole run (List.mem_append_left _ h)) (Nat.le_refl _)
    (latestBefore_counting hpos)
  rw [← hruns] at hq
  have hreplayed : (counting block).replayed logs headers = (q, none) := hq
  rw [update_held ⟨rfl, rfl⟩, if_neg (by rintro ⟨⟨⟩, -⟩), hreplayed]
  rw [Nat.zero_add] at hcount
  exact hcount

/-- When a lenient update does with all parts of a batch what it does without
their pending logs, whatever the venue and the snapshot are: if these interrupt no
run, but for runs of block 0. -/
theorem update_numbered_iff (logs : List Log) :
    (∀ block, 0 < block → ¬Interrupted block logs) ↔
      ∀ (S : Type) (s : Subscriber S), s.replica.inactive = false →
        s.replica.hasSnapshot = true → s.settings.policy = .lenient →
        ∀ (source : Source S) (headers : Headers) (n : Nat),
          s.update source (logs.take n) headers =
            s.update source (numbered (logs.take n)) headers := by
  constructor
  · intro h S s ha hs hlenient source headers n
    have hruns : pastGenesis (runs (numbered (logs.take n))) = pastGenesis (runs (logs.take n)) :=
      pastGenesis_numbered fun block hpos hpart => h block hpos hpart.of_take
    exact (update_of_pastGenesis ⟨ha, hs⟩ hlenient hruns source headers).symm
  · intro h block hpos hinterrupted
    obtain ⟨n, earlier, earlier', log, run, hwith, hwithout, hlength⟩ := hinterrupted.last_run
    -- What is counted in the block is the length of its last run.
    have hsame := h Counter (counting block) rfl rfl rfl (fun _ => .ok ⟨0⟩) .empty n
    have hone := update_counting hpos hwith (fun _ => .ok ⟨0⟩) .empty
    have hmore := update_counting hpos hwithout (fun _ => .ok ⟨0⟩) .empty
    rw [hsame, hmore] at hone
    injection hone with hcount
    injection hcount with hcount
    rw [hcount] at hlength
    exact absurd hlength (Nat.not_succ_le_self 1)

/-- Two logs of block 6 count as one if there is a pending one between them. -/
theorem update_interrupted :
    let s := ((new ⟨"g", "n"⟩ (Counter.venue 7) Settings.default).establish
      ⟨fun _ => .ok ⟨0⟩, none, none, .ok ()⟩ 5 (.supplied ⟨10⟩)).subscriber
    let logs : List Log :=
      [⟨7, [], [], some 6, some 0⟩, ⟨7, [], [], none, none⟩, ⟨7, [], [], some 6, some 1⟩]
    let whole := s.update (fun _ => .ok ⟨0⟩) logs .empty
    let without := s.update (fun _ => .ok ⟨0⟩) (numbered logs) .empty
    s.replica.Holds ∧ s.settings.policy = .lenient
      ∧ whole.subscriber.replica.current = some ⟨11⟩
      ∧ whole.subscriber.replica.history.get? 6 = some ⟨11⟩
      ∧ without.subscriber.replica.current = some ⟨12⟩
      ∧ without.subscriber.replica.history.get? 6 = some ⟨12⟩ ∧ whole ≠ without := by
  intro s logs whole without
  have hwhole : whole.subscriber.replica.current = some ⟨11⟩ := rfl
  have hwithout : without.subscriber.replica.current = some ⟨12⟩ := rfl
  refine ⟨⟨rfl, rfl⟩, rfl, hwhole, rfl, hwithout, rfl, ?_⟩
  intro hsame
  rw [hsame, hwithout] at hwhole
  exact absurd hwhole (by decide)

end Subscriber

end ChainReplica
