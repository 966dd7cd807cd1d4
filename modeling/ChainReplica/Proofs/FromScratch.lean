import ChainReplica.Proofs.SyncLogs

/-!
# Snapshots from scratch

A snapshot from scratch needs the newest `Sync` log of a pair, and asks for chunks
of blocks until it has one. On a node that shows a chain the chunks make no
difference: the answer is what the last `Sync` log between the floor and the block
tells (`Reserves.scan_shown`).

The fold of the chain keeps what the last `Sync` log tells as well, so the two ways
to a snapshot agree (`Reserves.generate_eq_folded`): from a snapshot from scratch
the logs of all blocks up to a later one lead to the snapshot from scratch there.
-/

namespace ChainReplica

variable {σ : Type}

/-! ## Nodes that show a chain -/

/-- Every request for logs is answered with those of the chain, oldest first. -/
def Node.Shows (node : Node σ) (c : Chain) : Prop :=
  ∀ f s, (node.logs f s).1 = some ((c.logsFrom f.first (f.last + 1 - f.first)).filter f.selects)

/-- The node of a chain. Its state is the number of requests so far, which decides
how far it shows the chain and whether a request fails. -/
def Chain.node (c : Chain) (head : Nat → Nat) (fails : Nat → Bool) : Node Nat where
  latest k := (if fails k then none else some (head (k + 1)), k + 1)
  header n k :=
    (if fails k then .failed else if n ≤ head k then .found (c.header n) else .unknown, k + 1)
  logs f k :=
    (if fails k then none
      else some ((c.logsFrom f.first (f.last + 1 - f.first)).filter f.selects), k + 1)

namespace Reserves

variable {node : Node σ} {c : Chain} {pair : Address} {floor target last : Nat} {log : Log}

theorem fetchLogs_shown (hnode : node.Shows c) (pair : Address) (first last : Nat) (s : σ) :
    (fetchLogs node pair first last s).1 = .ok (c.syncLogs pair first (last + 1 - first)) := by
  have hlogs := hnode (syncFilter pair first last) s
  rw [fetchLogs]
  generalize node.logs (syncFilter pair first last) s = answer at hlogs
  obtain ⟨_ | logs, s'⟩ := answer
  · cases hlogs
  · rw [← Chain.filter_selects]
    exact congrArg Except.ok (Option.some.inj hlogs)

/-! ## The scan -/

/-- The failure of a scan that has found no log. -/
def nothingFound (pair : Address) (floor target : Nat) : Failure :=
  .plain .generation ("No Sync event for " ++ pair.checksumText ++ " in blocks "
    ++ toString floor ++ "..=" ++ toString target)

/-- However the range is cut into chunks, its last log decides. -/
theorem scan_shown (hnode : node.Shows c) (hle : floor ≤ last) (s : σ) :
    (scan node pair floor target last s).1 =
      match (c.syncLogs pair floor (last + 1 - floor)).getLast? with
      | some log => told log
      | none => .error (nothingFound pair floor target) := by
  induction last using Nat.strongRecOn generalizing s with
  | ind last ih =>
      have hstart : floor ≤ chunkStart floor last ∧ chunkStart floor last ≤ last := by
        unfold chunkStart
        omega
      generalize hchunk : chunkStart floor last = start at hstart
      -- The chunk is the last part of the range.
      have hparts := c.syncLogs_split pair hstart.1 hstart.2
      have hfetch := fetchLogs_shown hnode pair start last s
      rw [scan, hchunk, hparts, List.getLast?_append]
      generalize fetchLogs node pair start last s = answer at hfetch
      obtain ⟨answered, s'⟩ := answer
      change answered = _ at hfetch
      subst hfetch
      cases hlast : (c.syncLogs pair start (last + 1 - start)).getLast? with
      | some log =>
          simp only [hlast, Option.some_or]
          rfl
      | none =>
          simp only [hlast, Option.none_or]
          split
          · have hnil : start - floor = 0 := by omega
            rw [hnil]
            rfl
          · have hcount : start - 1 + 1 - floor = start - floor := by omega
            rw [← hcount]
            exact ih (start - 1) (by omega) (by omega) s'

/-! ## The newest log -/

/-- A snapshot from scratch is what the newest log tells. -/
theorem generate_eq_told (hnode : node.Shows c) {lookback block n : Nat}
    (hnewest : c.newestSync? pair block = some log) (hn : log.block = some n)
    (hnear : block ≤ n + lookback) (s : σ) :
    (generate node pair lookback block s).1 = told log := by
  have hfloor : block - lookback ≤ block := Nat.sub_le ..
  rw [generate, scan_shown hnode hfloor]
  rw [c.newestSync?_eq_or pair hfloor] at hnewest
  cases hlast : (c.syncLogs pair (block - lookback) (block + 1 - (block - lookback))).getLast? with
  | some found =>
      rw [hlast, Option.some_or] at hnewest
      rw [Option.some.inj hnewest]
  | none =>
      -- A log before the floor is too old.
      rw [hlast, Option.none_or] at hnewest
      obtain ⟨m, -, hlt, -, hm⟩ :=
        Chain.mem_logsFrom (List.mem_filter.mp (List.mem_of_getLast? hnewest)).1
      obtain rfl : n = m := Option.some.inj (hn.symm.trans hm)
      omega

theorem newest_of_generate (hnode : node.Shows c) {lookback block : Nat} {s : σ} {r : Reserves}
    (h : (generate node pair lookback block s).1 = .ok r) :
    ∃ log, c.newestSync? pair block = some log ∧ told log = .ok r := by
  have hfloor : block - lookback ≤ block := Nat.sub_le ..
  rw [generate, scan_shown hnode hfloor] at h
  rw [c.newestSync?_eq_or pair hfloor]
  cases hlast : (c.syncLogs pair (block - lookback) (block + 1 - (block - lookback))).getLast? with
  | some log =>
      rw [hlast] at h
      exact ⟨log, rfl, h⟩
  | none =>
      rw [hlast] at h
      cases h

/-! ## Both ways to a snapshot -/

/-- The fold of a chain from a snapshot from scratch on goes through, and is at
every later block the snapshot from scratch there, if the newest log up to that
block is not too old to be found. -/
theorem generate_eq_folded (hnode : node.Shows c) (hlegible : c.Legible pair)
    {lookback start target n : Nat} (hle : start ≤ target) {s s' : σ} {first : Reserves}
    (hfirst : (generate node pair lookback start s).1 = .ok first)
    (hnewest : c.newestSync? pair target = some log) (hn : log.block = some n)
    (hnear : target ≤ n + lookback) :
    (folded c pair start first).Sound
      ∧ (generate node pair lookback target s').1 =
        .ok ((folded c pair start first).state target) := by
  refine ⟨folded_sound hlegible, ?_⟩
  rw [generate_eq_told hnode hnewest hn hnear]
  obtain ⟨old, hold, htold⟩ := newest_of_generate hnode hfirst
  obtain ⟨count, rfl⟩ := Nat.exists_eq_add_of_le hle
  rw [c.newestSync?_add pair start count, hold] at hnewest
  rw [state_folded hlegible]
  have hlast := getLast?_tellings (hlegible.logsFrom (start + 1) count)
  rw [← Chain.syncLogs] at hlast
  cases hnew : (c.syncLogs pair (start + 1) count).getLast? with
  | none =>
      rw [hnew] at hlast hnewest
      rw [hlast, ← Option.some.inj hnewest, htold]
      rfl
  | some found =>
      rw [hnew] at hlast hnewest
      obtain ⟨r, hr, htells⟩ := hlast
      rw [htells, ← Option.some.inj hnewest, hr]
      rfl

/-- A chain with three `Sync` logs of the pair, in blocks 3 and 1010. Another
contract has one in every block. -/
def traded : Chain where
  logs n :=
    let other : Log := { syncLog n 1 0 0 with address := 8 }
    if n = 3 then [syncLog 3 0 5 6, other, syncLog 3 4 7 8]
    else if n = 1010 then [other, syncLog 1010 2 9 1] else [other]
  header n := ⟨n, BitVec.ofNat 256 n, BitVec.ofNat 256 (n - 1), 12 * n⟩
  placed := by
    intro n log hlog
    dsimp only at hlog
    split at hlog
    · subst n
      simp only [List.mem_cons, List.not_mem_nil, or_false] at hlog
      rcases hlog with rfl | rfl | rfl <;> rfl
    · split at hlog
      · subst n
        simp only [List.mem_cons, List.not_mem_nil, or_false] at hlog
        rcases hlog with rfl | rfl <;> rfl
      · rw [List.mem_singleton.mp hlog]
        rfl
  ordered := by
    intro n
    dsimp only
    split
    · simp [syncLog]
    · split
      · simp [syncLog]
      · exact List.pairwise_singleton _ _

theorem legible_traded : traded.Legible 7 := by
  intro n log hlog hsync
  simp only [traded] at hlog
  split at hlog
  · simp only [List.mem_cons, List.not_mem_nil, or_false] at hlog
    rcases hlog with rfl | rfl | rfl
    · exact ⟨⟨5, 6⟩, by rfl⟩
    · cases hsync
    · exact ⟨⟨7, 8⟩, by rfl⟩
  · split at hlog
    · simp only [List.mem_cons, List.not_mem_nil, or_false] at hlog
      rcases hlog with rfl | rfl
      · cases hsync
      · exact ⟨⟨9, 1⟩, by rfl⟩
    · rw [List.mem_singleton.mp hlog] at hsync
      cases hsync

/-- The newest log is as old as a log may be, alone in the second chunk. -/
theorem generate_eq_folded_traded :
    let node := traded.node (fun _ => 5000) (fun _ => false)
    (generate node 7 1000 10 0).1 = .ok ⟨7, 8⟩
      ∧ (∃ log, traded.newestSync? 7 2010 = some log ∧ log.block = some 1010)
      ∧ (generate node 7 1000 2010 0).1 = .ok ((folded traded 7 10 ⟨7, 8⟩).state 2010) := by
  intro node
  have hnode : node.Shows traded := fun _ _ => rfl
  have hold : (traded.newestSync? 7 10).map (fun log => (log.block, (told log).toOption)) =
      some (some 3, some ⟨7, 8⟩) := by decide +kernel
  have hnew : (traded.newestSync? 7 2010).map (·.block) = some (some 1010) := by decide +kernel
  obtain ⟨old, hold, hpair⟩ := Option.map_eq_some_iff.mp hold
  obtain ⟨hthree, htold⟩ := Prod.mk.inj hpair
  have hfirst : (generate node 7 1000 10 0).1 = .ok ⟨7, 8⟩ := by
    rw [generate_eq_told hnode hold hthree (by decide) 0]
    cases hr : told old with
    | error e => rw [hr] at htold; cases htold
    | ok r => rw [hr] at htold; exact congrArg Except.ok (Option.some.inj htold)
  obtain ⟨log, hlog, hblock⟩ := Option.map_eq_some_iff.mp hnew
  exact ⟨hfirst, ⟨log, hlog, hblock⟩,
    (generate_eq_folded hnode legible_traded (by decide) hfirst hlog hblock (by decide)).2⟩

end Reserves

end ChainReplica
