import ChainReplica.Node.Script
import ChainReplica.Proofs.ChainFold
import ChainReplica.Proofs.SyncFold

/-!
# What the logs of a pair tell

Each `Sync` log of a pair tells its reserves anew, so of many logs only the last
one counts. The fold of a block keeps what its last `Sync` log tells, whatever the
reserves were before and whatever other logs stand in between
(`Reserves.foldOnto_rule`), and the fold of a chain is what the last `Sync` log
since the first snapshot tells (`Reserves.Follows.state_eq`).

The chain has to be legible for that: no `Sync` log of the pair is refused.
-/

namespace ChainReplica

namespace Reserves

/-- The reserves that a log tells. -/
def told (log : Log) : Except Failure Reserves := (decodeSync log).bind ofPair

/-- What the `Sync` logs of the pair tell, one after the other. -/
def tellings (pair : Address) (logs : List Log) : List Reserves :=
  logs.filterMap fun log => if isSync pair log then (told log).toOption else none

variable {pair : Address} {log : Log} {r base : Reserves} {header : Option Header}

/-! ## One log -/

/-- What is told can be read and believed. -/
theorem exists_event (h : isSync pair log = true) (hr : told log = .ok r) :
    ∃ e, event? pair log = some e ∧ Believed e ∧ r = ofEvent e := by
  cases hdata : decodeSync log with
  | error f => rw [told, hdata] at hr; cases hr
  | ok e =>
      rw [told, hdata] at hr
      change ofPair e = .ok r at hr
      by_cases hbelieved : Believed e
      · rw [ofPair_of_believed hbelieved] at hr
        exact ⟨e, by rw [event?, if_pos h, hdata]; rfl, hbelieved, (Except.ok.inj hr).symm⟩
      · obtain ⟨text, htext⟩ := ofPair_of_excessive hbelieved
        cases htext.symm.trans hr

/-! ## Many logs -/

/-- No `Sync` log of the pair is refused. -/
def Legible (pair : Address) (logs : List Log) : Prop :=
  ∀ log ∈ logs, isSync pair log = true → ∃ r, told log = .ok r

theorem tellings_append (pair : Address) (front back : List Log) :
    tellings pair (front ++ back) = tellings pair front ++ tellings pair back :=
  List.filterMap_append

theorem tellings_singleton (h : isSync pair log = true) (hr : told log = .ok r) :
    tellings pair [log] = [r] := by
  simp [tellings, h, hr, Except.toOption]

theorem tellings_filter (logs : List Log) :
    tellings pair (logs.filter (isSync pair)) = tellings pair logs := by
  rw [tellings, List.filterMap_filter, tellings]
  congr 1
  funext log
  cases isSync pair log <;> rfl

/-- What is told in legible logs is what their events carry. -/
theorem tellings_eq_map : ∀ {logs : List Log}, Legible pair logs →
    (∀ e ∈ events pair logs, Believed e) ∧ tellings pair logs = (events pair logs).map ofEvent
  | [], _ => ⟨nofun, rfl⟩
  | log :: rest, h => by
      obtain ⟨hbelieved, hrest⟩ := tellings_eq_map fun l hl => h l (List.mem_cons_of_mem _ hl)
      have hsplit := tellings_append pair [log] rest
      rw [List.singleton_append] at hsplit
      rw [hsplit, hrest]
      cases hsync : isSync pair log with
      | false =>
          have hnone : event? pair log = none := by simp [event?, hsync]
          have hnil : tellings pair [log] = [] := by simp [tellings, hsync]
          rw [events_cons_of_none hnone, hnil]
          exact ⟨hbelieved, rfl⟩
      | true =>
          obtain ⟨r, hr⟩ := h log List.mem_cons_self hsync
          obtain ⟨e, hlog, he⟩ := exists_event hsync hr
          rw [events_cons_of_some hlog, tellings_singleton hsync hr, he.2]
          exact ⟨List.forall_mem_cons.mpr ⟨he.1, hbelieved⟩, rfl⟩

/-- The fold of legible logs keeps what the last one tells. -/
theorem foldOnto_rule (base : Reserves) (header : Option Header) {logs : List Log}
    (changed : Option Reserves) (h : Legible pair logs) :
    foldOnto (rule pair) header base changed logs =
      .ok ((tellings pair logs).getLast?.or changed) := by
  obtain ⟨hbelieved, htold⟩ := tellings_eq_map h
  rw [foldOnto_of_believed base header changed hbelieved, htold, List.getLast?_map]

/-- The last `Sync` log is the one that counts. -/
theorem getLast?_tellings {logs : List Log} (h : Legible pair logs) :
    match (logs.filter (isSync pair)).getLast? with
    | none => tellings pair logs = []
    | some log => ∃ r, told log = .ok r ∧ (tellings pair logs).getLast? = some r := by
  rw [← tellings_filter]
  cases hlast : (logs.filter (isSync pair)).getLast? with
  | none =>
      rw [List.getLast?_eq_none_iff.mp hlast]
      rfl
  | some log =>
      obtain ⟨hmem, hsync⟩ := List.mem_filter.mp (List.mem_of_getLast? hlast)
      obtain ⟨r, hr⟩ := h log hmem hsync
      obtain ⟨front, hfront⟩ := List.getLast?_eq_some_iff.mp hlast
      refine ⟨r, hr, ?_⟩
      rw [hfront, tellings_append, tellings_singleton hsync hr, List.getLast?_append]
      rfl

theorem filter_eq_nil_iff {logs : List Log} (h : Legible pair logs) :
    logs.filter (isSync pair) = [] ↔ tellings pair logs = [] := by
  have hlast := getLast?_tellings h
  rw [← List.getLast?_eq_none_iff, ← List.getLast?_eq_none_iff]
  cases hlog : (logs.filter (isSync pair)).getLast? with
  | none =>
      rw [hlog] at hlast
      simp [hlast]
  | some log =>
      rw [hlog] at hlast
      obtain ⟨r, -, hr⟩ := hlast
      simp [hr]

end Reserves

/-! ## The logs of a chain -/

namespace Chain

variable {c : Chain} {pair : Address}

/-- The `Sync` logs of a pair in a range of blocks. -/
def syncLogs (c : Chain) (pair : Address) (first count : Nat) : List Log :=
  (c.logsFrom first count).filter (Reserves.isSync pair)

/-- No block has a `Sync` log of the pair that is refused. -/
def Legible (c : Chain) (pair : Address) : Prop := ∀ n, Reserves.Legible pair (c.logs n)

theorem logsFrom_add (first count more : Nat) :
    c.logsFrom first (count + more) =
      c.logsFrom first count ++ c.logsFrom (first + count) more := by
  rw [logsFrom, ← List.range'_append, Nat.one_mul, List.flatMap_append]
  rfl

theorem logsFrom_one (first : Nat) : c.logsFrom first 1 = c.logs first := by
  simp [logsFrom]

theorem syncLogs_add (first count more : Nat) :
    c.syncLogs pair first (count + more) =
      c.syncLogs pair first count ++ c.syncLogs pair (first + count) more := by
  rw [syncLogs, logsFrom_add, List.filter_append]
  rfl

theorem syncLogs_split (c : Chain) (pair : Address) {first start last : Nat}
    (hstart : first ≤ start) (hlast : start ≤ last) :
    c.syncLogs pair first (last + 1 - first) =
      c.syncLogs pair first (start - first) ++ c.syncLogs pair start (last + 1 - start) := by
  have hsum : last + 1 - first = (start - first) + (last + 1 - start) := by omega
  rw [hsum, syncLogs_add, Nat.add_sub_cancel' hstart]

/-- The newest `Sync` log of a pair up to a block. -/
def newestSync? (c : Chain) (pair : Address) (block : Nat) : Option Log :=
  (c.syncLogs pair 0 (block + 1)).getLast?

theorem newestSync?_eq_or (c : Chain) (pair : Address) {first block : Nat} (h : first ≤ block) :
    c.newestSync? pair block =
      (c.syncLogs pair first (block + 1 - first)).getLast?.or
        (c.syncLogs pair 0 first).getLast? := by
  have hsum : block + 1 = first + (block + 1 - first) := by omega
  rw [newestSync?, hsum, syncLogs_add, Nat.zero_add, List.getLast?_append, ← hsum]

theorem newestSync?_add (c : Chain) (pair : Address) (block count : Nat) :
    c.newestSync? pair (block + count) =
      (c.syncLogs pair (block + 1) count).getLast?.or (c.newestSync? pair block) := by
  rw [newestSync?, Nat.add_right_comm, syncLogs_add, Nat.zero_add, List.getLast?_append]
  rfl

/-- What a node selects of the logs of a range of blocks. -/
theorem filter_selects (pair : Address) (first last : Nat) :
    (c.logsFrom first (last + 1 - first)).filter (Reserves.syncFilter pair first last).selects =
      c.syncLogs pair first (last + 1 - first) := by
  refine List.filter_congr fun log hlog => ?_
  obtain ⟨n, hge, hlt, -, hn⟩ := mem_logsFrom hlog
  have hle : n ≤ last := by omega
  simp [LogFilter.selects, Reserves.syncFilter, Reserves.isSync, hn, hge, hle]

theorem Legible.logsFrom (h : c.Legible pair) (first count : Nat) :
    Reserves.Legible pair (c.logsFrom first count) := by
  intro log hlog
  obtain ⟨n, -, -, hn, -⟩ := mem_logsFrom hlog
  exact h n log hn

end Chain

/-! ## The fold of a chain -/

namespace Reserves

variable {c : Chain} {pair : Address} {origin n : Nat} {first : Reserves}

/-- A chain folded by the venue of a pair. -/
def folded (c : Chain) (pair : Address) (origin : Nat) (first : Reserves) : ChainFold Reserves :=
  ⟨c, venue pair, origin, first⟩

theorem outcome_folded (h : c.Legible pair) (base : Reserves) (n : Nat) :
    (folded c pair origin first).outcome base n = .ok (tellings pair (c.logs n)).getLast? := by
  have hfold := foldOnto_rule base (some (c.header n)) none (h n)
  rw [Option.or_none] at hfold
  exact hfold

theorem folded_idle : (folded c pair origin first).venue.Idle := fun _ _ => rfl

theorem folded_sound (h : c.Legible pair) : (folded c pair origin first).Sound :=
  fun n _ => ⟨_, outcome_folded h _ n⟩

/-- After the first snapshot, the last log since then tells the reserves. -/
theorem state_folded (h : c.Legible pair) (count : Nat) :
    (folded c pair origin first).state (origin + count) =
      (tellings pair (c.logsFrom (origin + 1) count)).getLast?.getD first := by
  induction count with
  | zero => exact ChainFold.state_origin
  | succ count ih =>
      rw [← Nat.add_assoc, ChainFold.state_succ (Nat.le_add_right origin count),
        outcome_folded h, ih, Chain.logsFrom_add, Chain.logsFrom_one, tellings_append,
        List.getLast?_append, Nat.add_right_comm origin 1 count]
      cases (tellings pair (c.logs (origin + count + 1))).getLast? <;> rfl

theorem changes_folded (h : c.Legible pair) :
    (folded c pair origin first).Changes n ↔ origin < n ∧ tellings pair (c.logs n) ≠ [] := by
  simp only [ChainFold.Changes, outcome_folded h, Except.ok.injEq, ne_eq,
    ← List.getLast?_eq_none_iff, ← Option.isSome_iff_ne_none, Option.isSome_iff_exists]
  rfl

/-- Blocks that do not change the reserves have no `Sync` log. -/
theorem syncLogs_eq_nil (h : c.Legible pair) {start count : Nat} (hstart : origin < start)
    (hno : ∀ m, start ≤ m → m < start + count → ¬(folded c pair origin first).Changes m) :
    c.syncLogs pair start count = [] := by
  have hblocks : ∀ m ∈ List.range' start count, tellings pair (c.logs m) = [] := by
    intro m hm
    obtain ⟨hge, hlt⟩ := List.mem_range'_1.mp hm
    refine Classical.byContradiction fun htells => hno m hge hlt ?_
    exact (changes_folded h).mpr ⟨Nat.lt_of_lt_of_le hstart hge, htells⟩
  refine (filter_eq_nil_iff (h.logsFrom start count)).mpr ?_
  rw [tellings, Chain.logsFrom, List.filterMap_flatMap]
  exact List.flatMap_eq_nil_iff.mpr hblocks

/-- The newest block that changed the reserves is that of the last `Sync` log. -/
theorem block_folded (h : c.Legible pair) {count : Nat}
    (hn : (folded c pair origin first).NewestChange (origin + count) n) :
    match (c.syncLogs pair (origin + 1) count).getLast? with
    | none => n = origin
    | some log => log.block = some n := by
  obtain ⟨⟨hle, hmarked⟩, hlater⟩ := hn
  rcases hmarked with rfl | hchanges
  · rw [syncLogs_eq_nil h (Nat.lt_succ_self _) fun m hge hlt => hlater m hge (by omega)]
    rfl
  · obtain ⟨hlt, htells⟩ := (changes_folded h).mp hchanges
    -- The blocks up to the change, its own, and those after it, which have no such log.
    obtain ⟨before, rfl⟩ := Nat.exists_eq_add_of_lt hlt
    obtain ⟨after, rfl⟩ : ∃ after, count = before + 1 + after :=
      ⟨count - (before + 1), by omega⟩
    have hafter : c.syncLogs pair (origin + 1 + (before + 1)) after = [] :=
      syncLogs_eq_nil h (by omega) fun m hge hlt => hlater m (by omega) (by omega)
    have hown : (c.logs (origin + before + 1)).filter (isSync pair) ≠ [] :=
      fun hnil => htells ((filter_eq_nil_iff (h _)).mp hnil)
    rw [Chain.syncLogs] at hafter ⊢
    rw [Chain.logsFrom_add, Chain.logsFrom_add, Chain.logsFrom_one, List.filter_append, hafter,
      List.append_nil, List.filter_append, Nat.add_right_comm origin 1 before,
      List.getLast?_append, List.getLast?_eq_some_getLast hown, Option.some_or]
    exact c.placed _ _ (List.mem_filter.mp (List.getLast_mem hown)).1

end Reserves

end ChainReplica
