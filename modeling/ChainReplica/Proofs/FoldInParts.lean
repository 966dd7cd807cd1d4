import ChainReplica.Venue

/-!
# A fold in parts

The fold of a block carries along the snapshot changed so far, or none. Only the
snapshot that the next log meets depends on it, so to go on from there is to fold the
rest onto that snapshot (`foldOnto_eq_map`). It follows that a fold may be cut
anywhere (`foldLogs_append`): the rest is folded onto what the front part left, and
where the rest changes nothing, the change that the front part made is kept. The fold
of a single log is the rule (`foldLogs_singleton`).

A fold that fails does so at the first log that fails on what the logs before it left
(`foldLogs_eq_error_iff`). One that changes nothing has met the base with every log
(`foldLogs_eq_none_iff`): a snapshot that was changed and changed back counts as
changed.
-/

namespace ChainReplica

variable {S : Type} {rule : LogRule S} {header : Option Header} {base x : S}
  {changed : Option S} {log : Log} {logs rest : List Log} {e : Failure}

/-! ## One log -/

theorem foldOnto_cons_error (h : rule (changed.getD base) log header = .error e) :
    foldOnto rule header base changed (log :: rest) = .error e := by
  rw [foldOnto, h]

theorem foldOnto_cons_ok {next : Option S}
    (h : rule (changed.getD base) log header = .ok next) :
    foldOnto rule header base changed (log :: rest) =
      foldOnto rule header base (next.or changed) rest := by
  rw [foldOnto, h]
  cases next <;> rfl

theorem foldLogs_cons_error (h : rule base log header = .error e) :
    foldLogs rule base (log :: rest) header = .error e := by
  rw [foldLogs, foldOnto, Option.getD_none, h]

theorem foldLogs_cons_ok {next : Option S} (h : rule base log header = .ok next) :
    foldLogs rule base (log :: rest) header = foldOnto rule header base next rest := by
  rw [foldLogs, foldOnto, Option.getD_none, h]
  cases next <;> rfl

theorem foldLogs_singleton (rule : LogRule S) (base : S) (log : Log) (header : Option Header) :
    foldLogs rule base [log] header = rule base log header := by
  cases hrule : rule base log header with
  | error e => exact foldLogs_cons_error hrule
  | ok next => exact foldLogs_cons_ok hrule

/-! ## Two parts in a row -/

/-- To go on from a changed snapshot is to fold onto it, and to remember the change. -/
theorem foldOnto_eq_map : ∀ (logs : List Log) (base : S) (changed : Option S),
    foldOnto rule header base changed logs =
      (foldLogs rule (changed.getD base) logs header).map (·.or changed)
  | [], _, _ => rfl
  | log :: rest, base, changed => by
      cases hrule : rule (changed.getD base) log header with
      | error e =>
          rw [foldOnto_cons_error hrule, foldLogs_cons_error hrule]
          rfl
      | ok next =>
          rw [foldOnto_cons_ok hrule, foldLogs_cons_ok hrule]
          cases next with
          | none => exact foldOnto_eq_map rest base changed
          | some x =>
              -- Both sides go on from `x`, which is the change that is remembered.
              rw [Option.some_or, foldOnto_eq_map rest base,
                foldOnto_eq_map rest (changed.getD base), Option.getD_some, Option.getD_some]
              cases foldLogs rule x rest header with
              | error e => rfl
              | ok last => cases last <;> rfl

theorem foldOnto_append : ∀ (front back : List Log) (base : S) (changed : Option S),
    foldOnto rule header base changed (front ++ back) =
      (foldOnto rule header base changed front).bind fun next =>
        foldOnto rule header base next back
  | [], _, _, _ => rfl
  | log :: rest, back, base, changed => by
      rw [List.cons_append]
      cases hrule : rule (changed.getD base) log header with
      | error e =>
          rw [foldOnto_cons_error hrule, foldOnto_cons_error hrule]
          rfl
      | ok next =>
          rw [foldOnto_cons_ok hrule, foldOnto_cons_ok hrule]
          exact foldOnto_append rest back base _

/-- The back part is folded onto what the front part left. -/
theorem foldLogs_append (rule : LogRule S) (base : S) (front back : List Log)
    (header : Option Header) :
    foldLogs rule base (front ++ back) header =
      (foldLogs rule base front header).bind fun changed =>
        (foldLogs rule (changed.getD base) back header).map (·.or changed) := by
  rw [foldLogs, foldOnto_append]
  congr 1
  funext changed
  exact foldOnto_eq_map back base changed

/-! ## Failures -/

theorem exists_failing : ∀ {logs : List Log} {changed : Option S},
    foldOnto rule header base changed logs = .error e →
      ∃ front log back next, logs = front ++ log :: back
        ∧ foldOnto rule header base changed front = .ok next
        ∧ rule (next.getD base) log header = .error e
  | log :: rest, changed, h => by
      cases hrule : rule (changed.getD base) log header with
      | error f =>
          obtain rfl : f = e := Except.error.inj ((foldOnto_cons_error hrule).symm.trans h)
          exact ⟨[], log, rest, changed, rfl, rfl, hrule⟩
      | ok next =>
          rw [foldOnto_cons_ok hrule] at h
          obtain ⟨front, failing, back, last, rfl, hfront, hfailing⟩ := exists_failing h
          exact ⟨log :: front, failing, back, last, rfl, (foldOnto_cons_ok hrule).trans hfront,
            hfailing⟩

/-- A fold fails at the first log that fails on what the logs before it left. -/
theorem foldLogs_eq_error_iff : foldLogs rule base logs header = .error e ↔
    ∃ front log back changed, logs = front ++ log :: back
      ∧ foldLogs rule base front header = .ok changed
      ∧ rule (changed.getD base) log header = .error e := by
  constructor
  · exact exists_failing
  · rintro ⟨front, log, back, changed, rfl, hfront, hlog⟩
    rw [foldLogs, foldOnto_append, ← foldLogs, hfront]
    exact foldOnto_cons_error hlog

/-! ## No change -/

/-- What was changed stays changed. -/
theorem foldOnto_some_ne_none (logs : List Log) :
    foldOnto rule header base (some x) logs ≠ .ok none := by
  rw [foldOnto_eq_map]
  cases foldLogs rule ((some x).getD base) logs header with
  | error e => exact nofun
  | ok last => cases last <;> exact nofun

theorem foldLogs_eq_none_iff : ∀ {logs : List Log},
    foldLogs rule base logs header = .ok none ↔ ∀ log ∈ logs, rule base log header = .ok none
  | [] => iff_of_true rfl nofun
  | log :: rest => by
      rw [List.forall_mem_cons, ← foldLogs_eq_none_iff]
      cases hrule : rule base log header with
      | error e => simp [foldLogs_cons_error hrule]
      | ok next =>
          rw [foldLogs_cons_ok hrule]
          cases next with
          | none => exact (and_iff_right rfl).symm
          | some x => exact iff_of_false (foldOnto_some_ne_none rest) fun h => nomatch h.1

/-! ## A fold that is cut -/

/-- A fold may be cut anywhere, down to single logs. It stops at the first failure, and
only logs that change nothing leave nothing changed. -/
theorem foldLogs_in_parts (rule : LogRule S) (base : S) (front back : List Log)
    (header : Option Header) :
    (foldLogs rule base (front ++ back) header =
        match foldLogs rule base front header with
        | .error e => .error e
        | .ok changed => match foldLogs rule (changed.getD base) back header with
          | .error e => .error e
          | .ok none => .ok changed
          | .ok (some next) => .ok (some next))
      ∧ (∀ log, foldLogs rule base [log] header = rule base log header)
      ∧ (∀ e, foldLogs rule base front header = .error e ↔
        ∃ before log after changed, front = before ++ log :: after
          ∧ foldLogs rule base before header = .ok changed
          ∧ rule (changed.getD base) log header = .error e)
      ∧ (foldLogs rule base front header = .ok none ↔
        ∀ log ∈ front, rule base log header = .ok none) := by
  refine ⟨?_, fun log => foldLogs_singleton rule base log header,
    fun e => foldLogs_eq_error_iff, foldLogs_eq_none_iff⟩
  rw [foldLogs_append]
  cases foldLogs rule base front header with
  | error e => rfl
  | ok changed =>
      dsimp only [Except.bind]
      cases foldLogs rule (changed.getD base) back header with
      | error e => rfl
      | ok last => cases last <;> rfl

/-- A change back to the base is a change. -/
example : foldLogs (fun n _ _ => .ok (some (1 - n))) 0
    [⟨7, [], [], some 5, some 0⟩, ⟨7, [], [], some 5, some 1⟩] none = .ok (some 0) := rfl

end ChainReplica
