import ChainReplica.Proofs.ChainFold
import ChainReplica.Proofs.Replay
import ChainReplica.Subscriber.Lifecycle
import ChainReplica.Venue.Counter

/-!
# Delivery at least once

A subscriber that starts from a snapshot and is delivered ranges of blocks,
again and again and in any overlap, but never with a gap, holds the exact fold
of the chain (`receiveAll_eq_fold`).

The invariant is `Mirrors`: the current snapshot is that of the newest block
delivered, and the checkpoints are the marked blocks of the chain - those with
a snapshot of their own - from some floor on. Pruning raises the floor and
nothing else, so a block that comes again either has its right base or none
(`Mirrors.take_again`).
-/

namespace ChainReplica

/-- A range of blocks that is delivered with all its logs and headers, and
what a snapshot from scratch would be at that moment. -/
structure Delivery (S : Type) where
  first : Nat
  last : Nat
  source : Source S

namespace Delivery

variable {S : Type}

def count (d : Delivery S) : Nat := d.last + 1 - d.first

/-- No range begins more than one block after the newest one delivered. -/
def Gapless (newest : Nat) : List (Delivery S) → Prop
  | [] => True
  | d :: rest => d.first ≤ newest + 1 ∧ Gapless (max newest d.last) rest

/-- The newest block that is delivered. -/
def reached (newest : Nat) : List (Delivery S) → Nat
  | [] => newest
  | d :: rest => reached (max newest d.last) rest

end Delivery

namespace Subscriber

variable {S : Type}

def receive (c : Chain) (s : Subscriber S) (d : Delivery S) : Outcome S :=
  s.update d.source (c.logsFrom d.first d.count) (c.headersFrom d.first d.count)

def receiveAll (c : Chain) (s : Subscriber S) : List (Delivery S) → Subscriber S
  | [] => s
  | d :: rest => receiveAll c (s.receive c d).subscriber rest

end Subscriber

theorem Counter.exists_fold (address : Address) {base : Counter} {logs : List Log}
    {header : Option Header} :
    ∃ changed, (Counter.venue address).fold base logs header = .ok changed := by
  have honto : ∀ (logs : List Log) (changed : Option Counter),
      ∃ next, foldOnto (Counter.rule address) header base changed logs = .ok next := by
    intro logs
    induction logs with
    | nil => exact fun changed => ⟨changed, rfl⟩
    | cons log rest ih =>
        intro changed
        by_cases haddress : log.address = address
        · simpa only [foldOnto, Counter.rule, if_pos haddress] using ih _
        · simpa only [foldOnto, Counter.rule, if_neg haddress] using ih _
  exact honto logs none

namespace ChainFold

variable {S : Type} {f : ChainFold S} {newest n : Nat} {r : Replica S} {headers : Headers}

/-! ## The invariant -/

/-- The replica holds the fold of the chain up to a block. -/
structure Mirrors (f : ChainFold S) (newest : Nat) (r : Replica S) : Prop where
  awake : r.inactive = false
  current : r.current = some (f.state newest)
  pointer : f.NewestChange newest r.pointer
  /-- From a floor on, the checkpoints are the marked blocks. -/
  checkpoints : ∃ floor ≤ r.pointer, ∀ e, e ∈ r.entries ↔
    (floor ≤ e.1 ∧ e.1 ≤ newest) ∧ f.Marked e.1 ∧ e.2 = f.state e.1

theorem Mirrors.holds (h : f.Mirrors newest r) : r.Holds :=
  ⟨h.awake, Replica.hasSnapshot_iff.mpr ⟨_, h.current⟩⟩

theorem Mirrors.validate (h : f.Mirrors newest r) : f.Mirrors newest r.validate :=
  ⟨h.awake, h.current, h.pointer, h.checkpoints⟩

theorem Mirrors.state_pointer (h : f.Mirrors newest r) : f.state r.pointer = f.state newest := by
  obtain ⟨⟨hle, hmarked⟩, hno⟩ := h.pointer
  exact (state_eq_of_unchanged hmarked.origin_le hle hno).symm

/-- A first snapshot mirrors the chain up to its own block. -/
theorem mirrors_supplied (f : ChainFold S) (retention : Nat) :
    f.Mirrors f.origin ((Replica.new retention).apply (some f.first) f.origin) where
  awake := rfl
  current := congrArg some state_origin.symm
  pointer := ⟨⟨Nat.le_refl _, Or.inl rfl⟩, fun m hm hmn => absurd hmn (Nat.not_le_of_lt hm)⟩
  checkpoints := by
    refine ⟨f.origin, Nat.le_refl _, fun e => ?_⟩
    rw [Replica.mem_apply]
    constructor
    · rintro ⟨rfl | ⟨hnil, -⟩, -⟩
      · exact ⟨⟨Nat.le_refl _, Nat.le_refl _⟩, Or.inl rfl, state_origin.symm⟩
      · cases hnil
    · rintro ⟨⟨hge, hle⟩, -, hx⟩
      have hblock : e.1 = f.origin := Nat.le_antisymm hle hge
      refine ⟨Or.inl (Prod.ext hblock ?_), ?_⟩
      · rw [hx, hblock, state_origin]
      · rw [hblock]
        exact Nat.sub_le ..

/-! ## One block -/

theorem Mirrors.skip (h : f.Mirrors newest r) (hno : ¬f.Changes (newest + 1)) :
    f.Mirrors (newest + 1) r := by
  obtain ⟨⟨hle, hmarked⟩, hlater⟩ := h.pointer
  have hunchanged : ∀ m, r.pointer < m → m ≤ newest + 1 → ¬f.Changes m := by
    intro m hm hmn
    rcases Nat.lt_or_eq_of_le hmn with hlt | rfl
    · exact hlater m hm (Nat.le_of_lt_succ hlt)
    · exact hno
  refine ⟨h.awake, ?_, ⟨⟨Nat.le_succ_of_le hle, hmarked⟩, hunchanged⟩, ?_⟩
  · rw [h.current, ← h.state_pointer]
    exact congrArg some (state_eq_of_unchanged hmarked.origin_le (by omega) hunchanged).symm
  · obtain ⟨floor, hfloor, hentries⟩ := h.checkpoints
    refine ⟨floor, hfloor, fun e => (hentries e).trans ?_⟩
    constructor
    · rintro ⟨⟨hge, hle'⟩, hrest⟩
      exact ⟨⟨hge, Nat.le_succ_of_le hle'⟩, hrest⟩
    · rintro ⟨⟨hge, hle'⟩, hm, hx⟩
      refine ⟨⟨hge, ?_⟩, hm, hx⟩
      rcases Nat.lt_or_eq_of_le hle' with hlt | heq
      · exact Nat.le_of_lt_succ hlt
      · rcases hm with horigin | hchanges
        · have := hmarked.origin_le
          omega
        · exact absurd (heq ▸ hchanges) hno

/-- The base of a block that was delivered before has the snapshot of the block
before it: no block in between changed it. -/
theorem Mirrors.base_again (h : f.Mirrors newest r) (hn : n ≤ newest) {base : Nat × S}
    (hbase : r.history.latestBefore n = some base) :
    f.origin < n ∧ base ∈ r.entries ∧ base.1 < n ∧ base.2 = f.state (n - 1) := by
  obtain ⟨floor, -, hentries⟩ := h.checkpoints
  obtain ⟨⟨hmem, hlt⟩, hmax⟩ := History.latestBefore_eq_some_iff.mp hbase
  obtain ⟨⟨hge, -⟩, hmarked, hx⟩ := (hentries base).mp hmem
  have horigin := hmarked.origin_le
  have hno : ∀ m, base.1 < m → m ≤ n - 1 → ¬f.Changes m := by
    intro m hm hmn hchanges
    have hentry : (m, f.state m) ∈ r.entries :=
      (hentries _).mpr ⟨⟨by simp; omega, by simp; omega⟩, Or.inr hchanges, rfl⟩
    have := hmax _ hentry (by simp; omega)
    simp at this
    omega
  refine ⟨by omega, hmem, hlt, ?_⟩
  rw [hx, state_eq_of_unchanged horigin (by omega) hno]

theorem Mirrors.checkpoint {next : S} (h : f.Mirrors newest r) (hself : (n, next) ∈ r.entries) :
    f.Mirrors newest (r.checkpoint n next) := by
  refine ⟨h.awake, h.current, h.pointer, ?_⟩
  obtain ⟨floor, hfloor, hentries⟩ := h.checkpoints
  refine ⟨floor, hfloor, fun e => Iff.trans ?_ (hentries e)⟩
  rw [Replica.mem_checkpoint]
  constructor
  · rintro (rfl | ⟨he, -⟩)
    · exact hself
    · exact he
  · intro he
    by_cases hblock : e.1 = n
    · exact Or.inl (BlockMap.entry_unique he hself hblock)
    · exact Or.inr ⟨he, hblock⟩

/-- A block that was delivered before changes nothing: it is skipped, or
stores the checkpoint that is there already. -/
theorem Mirrors.take_again (hsound : f.Sound) (h : f.Mirrors newest r) (hn : n ≤ newest)
    (hheader : headers.get? n = some (f.chain.header n)) :
    ∃ r', r.take f.venue headers ⟨n, f.chain.logs n⟩ = .ok r' ∧ f.Mirrors newest r' := by
  cases hbase : r.history.latestBefore n with
  | none => exact ⟨r, Replica.take_of_none hbase, h⟩
  | some base =>
      obtain ⟨horigin, hmem, hlt, hx⟩ := h.base_again hn hbase
      obtain ⟨changed, hchanged⟩ := hsound n horigin
      rw [Replica.take_of_base hbase, hx, hheader]
      change ∃ r', (f.outcome (f.state (n - 1)) n).map _ = .ok r' ∧ _
      rw [hchanged]
      cases changed with
      | none => exact ⟨r, rfl, h⟩
      | some next =>
          have hchanges : f.Changes n := ⟨horigin, next, hchanged⟩
          have hle : n ≤ r.pointer := Nat.le_of_not_lt fun hp => h.pointer.2 n hp hn hchanges
          obtain ⟨floor, -, hentries⟩ := h.checkpoints
          have hge := ((hentries base).mp hmem).1.1
          have hself : (n, next) ∈ r.entries :=
            (hentries _).mpr ⟨⟨by simp; omega, hn⟩, Or.inr hchanges,
              (state_of_change horigin hchanged).symm⟩
          refine ⟨r.keep next n, rfl, ?_⟩
          rw [Replica.keep, if_neg (Nat.not_lt_of_le hle)]
          exact h.checkpoint hself

/-- The base of the next block is the entry of the pointer. -/
theorem Mirrors.base_next (h : f.Mirrors newest r) :
    r.history.latestBefore (newest + 1) = some (r.pointer, f.state newest) := by
  obtain ⟨⟨hle, hmarked⟩, hno⟩ := h.pointer
  obtain ⟨floor, hfloor, hentries⟩ := h.checkpoints
  refine History.latestBefore_eq_some_iff.mpr ⟨⟨?_, Nat.lt_succ_of_le hle⟩, ?_⟩
  · exact (hentries _).mpr ⟨⟨hfloor, hle⟩, hmarked, h.state_pointer.symm⟩
  · intro e he _
    obtain ⟨⟨-, hle'⟩, hm, -⟩ := (hentries e).mp he
    rcases hm with horigin | hchanges
    · exact horigin ▸ hmarked.origin_le
    · exact Nat.le_of_not_lt fun hlt => hno _ hlt hle' hchanges

theorem Mirrors.apply {next : S} (h : f.Mirrors newest r) (horigin : f.origin ≤ newest)
    (hchanged : f.outcome (f.state newest) (newest + 1) = .ok (some next)) :
    f.Mirrors (newest + 1) (r.apply (some next) (newest + 1)) := by
  have hstate : f.state (newest + 1) = next :=
    state_of_change (Nat.lt_succ_of_le horigin) hchanged
  have hchanges : f.Changes (newest + 1) := ⟨Nat.lt_succ_of_le horigin, next, hchanged⟩
  refine ⟨h.awake, congrArg some hstate.symm, ⟨⟨Nat.le_refl _, Or.inr hchanges⟩, ?_⟩, ?_⟩
  · exact fun m hm hmn => absurd hmn (Nat.not_le_of_lt hm)
  · obtain ⟨floor, hfloor, hentries⟩ := h.checkpoints
    have hle := h.pointer.1.1
    refine ⟨max floor (newest + 1 - r.history.retention),
      Nat.max_le.mpr ⟨by show floor ≤ newest + 1; omega, Nat.sub_le ..⟩, fun e => ?_⟩
    rw [Replica.mem_apply, hentries, Nat.max_le]
    constructor
    · rintro ⟨rfl | ⟨⟨⟨hge, hle'⟩, hm, hx⟩, -⟩, hkept⟩
      · exact ⟨⟨⟨by show floor ≤ newest + 1; omega, hkept⟩, Nat.le_refl _⟩,
          Or.inr hchanges, hstate.symm⟩
      · exact ⟨⟨⟨hge, hkept⟩, Nat.le_succ_of_le hle'⟩, hm, hx⟩
    · rintro ⟨⟨⟨hge, hkept⟩, hle'⟩, hm, hx⟩
      refine ⟨?_, hkept⟩
      by_cases hblock : e.1 = newest + 1
      · exact Or.inl (Prod.ext hblock (by rw [hx, hblock, hstate]))
      · exact Or.inr ⟨⟨⟨hge, by omega⟩, hm, hx⟩, hblock⟩

theorem Mirrors.take_next (hsound : f.Sound) (h : f.Mirrors newest r)
    (hheader : headers.get? (newest + 1) = some (f.chain.header (newest + 1))) :
    ∃ r', r.take f.venue headers ⟨newest + 1, f.chain.logs (newest + 1)⟩ = .ok r'
      ∧ f.Mirrors (newest + 1) r' := by
  have horigin : f.origin ≤ newest := Nat.le_trans h.pointer.1.2.origin_le h.pointer.1.1
  obtain ⟨changed, hchanged⟩ := hsound (newest + 1) (Nat.lt_succ_of_le horigin)
  rw [Nat.add_sub_cancel] at hchanged
  rw [Replica.take_of_base h.base_next, hheader]
  change ∃ r', (f.outcome (f.state newest) (newest + 1)).map _ = .ok r' ∧ _
  rw [hchanged]
  cases changed with
  | none =>
      refine ⟨r, rfl, h.skip ?_⟩
      rintro ⟨-, next, hnext⟩
      rw [Nat.add_sub_cancel, hchanged] at hnext
      cases hnext
  | some next =>
      refine ⟨r.keep next (newest + 1), rfl, ?_⟩
      rw [Replica.keep, if_pos (Nat.lt_succ_of_le h.pointer.1.1)]
      exact h.apply horigin hchanged

theorem Mirrors.take (hsound : f.Sound) (h : f.Mirrors newest r) (hn : n ≤ newest + 1)
    (hheader : headers.get? n = some (f.chain.header n)) :
    ∃ r', r.take f.venue headers ⟨n, f.chain.logs n⟩ = .ok r'
      ∧ f.Mirrors (max newest n) r' := by
  rcases Nat.lt_or_eq_of_le hn with hlt | rfl
  · have hle : n ≤ newest := Nat.le_of_lt_succ hlt
    rw [Nat.max_eq_left hle]
    exact h.take_again hsound hle hheader
  · rw [Nat.max_eq_right (Nat.le_succ newest)]
    exact h.take_next hsound hheader

/-! ## One delivery -/

/-- The replay of a range of blocks that leaves no gap goes through, and the
replica mirrors the chain up to the last of them. -/
theorem Mirrors.replay (hidle : f.venue.Idle) (hsound : f.Sound) :
    ∀ {count first newest : Nat} {r : Replica S}, f.Mirrors newest r → first ≤ newest + 1 →
      (∀ n, first ≤ n → n < first + count → headers.get? n = some (f.chain.header n)) →
      ∃ r', r.replay f.venue headers (runs (f.chain.logsFrom first count)) = (r', none)
        ∧ f.Mirrors (max newest (first + count - 1)) r'
  | 0, first, newest, r, h, hfirst, _ => by
      have hmax : max newest (first + 0 - 1) = newest := by omega
      exact ⟨r, rfl, by rw [hmax]; exact h⟩
  | count + 1, first, newest, r, h, hfirst, hheaders => by
      have hrest : ∀ n, first + 1 ≤ n → n < first + 1 + count →
          headers.get? n = some (f.chain.header n) :=
        fun n hle hlt => hheaders n (by omega) (by omega)
      have hmax : max (max newest first) (first + 1 + count - 1)
          = max newest (first + (count + 1) - 1) := by omega
      rw [Chain.runs_logsFrom_succ]
      by_cases hnil : f.chain.logs first = []
      · have hskip : f.Mirrors (max newest first) r := by
          rcases Nat.lt_or_eq_of_le hfirst with hlt | rfl
          · rwa [Nat.max_eq_left (Nat.le_of_lt_succ hlt)]
          · rw [Nat.max_eq_right (Nat.le_succ newest)]
            exact h.skip (not_changes_of_nil hidle hnil)
        rw [if_pos hnil, List.nil_append, ← hmax]
        exact hskip.replay hidle hsound (by omega) hrest
      · obtain ⟨r', htake, h'⟩ :=
          h.take hsound hfirst (hheaders first (Nat.le_refl _) (by omega))
        obtain ⟨r'', hreplay, h''⟩ := h'.replay hidle hsound (by omega) hrest
        rw [hmax] at h''
        refine ⟨r'', ?_, h''⟩
        rw [if_neg hnil, List.singleton_append, Replica.replay, htake]
        exact hreplay

/-- A delivery that leaves no gap is accepted, and the replica mirrors the
chain up to the newest block. -/
theorem Mirrors.receive {s : Subscriber S} {d : Delivery S} (hvenue : s.venue = f.venue)
    (hidle : f.venue.Idle) (hsound : f.Sound) (h : f.Mirrors newest s.replica)
    (hfirst : d.first ≤ newest + 1) :
    (s.receive f.chain d).result = .ok ()
      ∧ (s.receive f.chain d).subscriber.venue = f.venue
      ∧ f.Mirrors (max newest d.last) (s.receive f.chain d).subscriber.replica := by
  have haccepted : ¬s.Rejects (f.chain.logsFrom d.first d.count)
      (f.chain.headersFrom d.first d.count) :=
    fun hrejects => hrejects.2 (Chain.violations_range _ _)
  obtain ⟨r, hreplay, hr⟩ := h.replay hidle hsound hfirst
    fun n hle hlt => Chain.get?_headersFrom (c := f.chain) hle hlt
  have hmax : max newest (d.first + d.count - 1) = max newest d.last := by
    unfold Delivery.count
    omega
  rw [hmax] at hr
  rw [← hvenue] at hreplay
  rw [Subscriber.receive, Subscriber.result_held h.holds, Subscriber.update_held h.holds,
    if_neg haccepted, if_neg haccepted, Subscriber.replayed, hreplay]
  exact ⟨rfl, hvenue, hr.validate⟩

/-! ## All deliveries -/

theorem Mirrors.receiveAll (hidle : f.venue.Idle) (hsound : f.Sound) :
    ∀ {deliveries : List (Delivery S)} {newest : Nat} {s : Subscriber S},
      s.venue = f.venue → f.Mirrors newest s.replica → Delivery.Gapless newest deliveries →
      (s.receiveAll f.chain deliveries).venue = f.venue
        ∧ f.Mirrors (Delivery.reached newest deliveries)
          (s.receiveAll f.chain deliveries).replica
  | [], _, _, hvenue, h, _ => ⟨hvenue, h⟩
  | _ :: _, _, _, hvenue, h, hgapless => by
      obtain ⟨-, hvenue', h'⟩ := h.receive hvenue hidle hsound hgapless.1
      have hrest := h'.receiveAll hidle hsound hvenue' hgapless.2
      exact hrest

/-- Delivery at least once gives the exact fold of the chain, whatever the
settings: the newest snapshot is held, the pointer is the newest block that
changed it, every checkpoint is the snapshot of its block, and the next
delivery without a gap is accepted as well. -/
theorem receiveAll_eq_fold (f : ChainFold S) (hidle : f.venue.Idle) (hsound : f.Sound)
    (id : Subscription) (settings : Settings) (world : Surroundings S)
    (deliveries : List (Delivery S)) (hgapless : Delivery.Gapless f.origin deliveries) :
    let begun := (Subscriber.new id f.venue settings).establish world f.origin (.supplied f.first)
    let s := begun.subscriber.receiveAll f.chain deliveries
    let newest := Delivery.reached f.origin deliveries
    s.replica.current = some (f.state newest)
      ∧ f.NewestChange newest s.replica.pointer
      ∧ (∀ e ∈ s.replica.entries, f.Marked e.1 ∧ e.1 ≤ newest ∧ e.2 = f.state e.1)
      ∧ ∀ d : Delivery S, d.first ≤ newest + 1 → (s.receive f.chain d).result = .ok () := by
  intro begun s newest
  have hbegun : f.Mirrors f.origin begun.subscriber.replica := mirrors_supplied f _
  obtain ⟨hvenue, h⟩ := hbegun.receiveAll hidle hsound rfl hgapless
  refine ⟨h.current, h.pointer, ?_, ?_⟩
  · intro e he
    obtain ⟨floor, -, hentries⟩ := h.checkpoints
    obtain ⟨⟨-, hle⟩, hmarked, hx⟩ := (hentries e).mp he
    exact ⟨hmarked, hle, hx⟩
  · exact fun d hfirst => (h.receive hvenue hidle hsound hfirst).1

/-- A chain on which every block with an odd number counts two logs. -/
def odd : ChainFold Counter where
  chain :=
    { logs := fun n =>
        if n % 2 = 1 then [⟨7, [], [], some n, some 0⟩, ⟨7, [], [], some n, some 4⟩] else []
      header := fun n => ⟨n, 0, 0, 12 * n⟩
      placed := by
        intro n log hlog
        split at hlog
        · simp only [List.mem_cons, List.not_mem_nil, or_false] at hlog
          rcases hlog with rfl | rfl <;> rfl
        · cases hlog
      ordered := by
        intro n
        split
        · exact List.pairwise_pair.mpr (Nat.zero_le _)
        · exact List.Pairwise.nil }
  venue := Counter.venue 7
  origin := 5
  first := ⟨10⟩

/-- Block 7 comes three times; a window of two blocks drops its base. -/
theorem receiveAll_odd :
    let begun := (Subscriber.new ⟨"g", "n"⟩ odd.venue
        { Settings.default with retention := 2, policy := .strict }).establish
      ⟨fun _ => .ok ⟨0⟩, none, none, .ok ()⟩ 5 (.supplied ⟨10⟩)
    let s := begun.subscriber.receiveAll odd.chain
      [⟨6, 8, fun _ => .ok ⟨0⟩⟩, ⟨7, 10, fun _ => .ok ⟨0⟩⟩, ⟨7, 7, fun _ => .ok ⟨0⟩⟩]
    s.replica.current = some ⟨14⟩ ∧ odd.NewestChange 10 s.replica.pointer := by
  have hsound : odd.Sound := fun n _ => Counter.exists_fold 7
  have h := receiveAll_eq_fold odd (fun _ _ => rfl) hsound ⟨"g", "n"⟩
    { Settings.default with retention := 2, policy := .strict }
    ⟨fun _ => .ok ⟨0⟩, none, none, .ok ()⟩
    [⟨6, 8, fun _ => .ok ⟨0⟩⟩, ⟨7, 10, fun _ => .ok ⟨0⟩⟩, ⟨7, 7, fun _ => .ok ⟨0⟩⟩]
    (by simp [Delivery.Gapless, odd])
  exact ⟨h.1, h.2.1⟩

end ChainFold

end ChainReplica
