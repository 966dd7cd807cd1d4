import ChainReplica.Proofs.Ascending
import ChainReplica.Subscriber.Lifecycle

/-!
# First snapshots

What the search for a first snapshot leaves behind on a subscriber that is awake:
the snapshot is held (`Subscriber.holding`), and the subscriber registers, or no
snapshot can be built, and nothing happens.

A subscriber that held nothing before is one with its first snapshot then
(`Subscriber.begun`): what is built from scratch at the block that was asked for
(`establish_alone`), or the published record on a slave that shares
(`establish_published`). If the published record is what would be built anyway,
it does not matter which (`establish_usual`).
-/

namespace ChainReplica

variable {S : Type}

theorem Settings.sharesAs_of_ne {settings : Settings} {role other : Role}
    (h : settings.sharesAs role = true) (hne : role ≠ other) : settings.sharesAs other = false := by
  rw [Settings.sharesAs, Bool.and_eq_true] at h
  rw [Settings.sharesAs, eq_of_beq h.2, beq_eq_false_iff_ne.mpr hne, Bool.and_false]

namespace Subscriber

variable {world : Surroundings S} {x : S} {block : Nat}

section Awake

variable {s : Subscriber S}

/-- A subscriber with a snapshot of a block, which it trusts and has checkpointed. -/
def holding (s : Subscriber S) (x : S) (block : Nat) : Subscriber S :=
  { s with replica := { s.replica with
      history := ((s.replica.history.insert block x).prune block).2
      current := some x
      pointer := block
      invalid := false } }

theorem put_awake (ha : s.replica.inactive = false) (x : S) (block : Nat) :
    s.put (some x) block = (s.holding x block,
      if s.settings.sharesAs .master then [.store block x] else []) := by
  rw [put, ha]
  rfl

theorem adopt_awake (ha : s.replica.inactive = false) (x : S) (block baseline : Nat) :
    s.adopt world x block baseline = ⟨s.holding x block,
      (if s.settings.sharesAs .master then [.store block x] else []) ++ [.register baseline],
      world.registration⟩ := by
  rw [adopt, put_awake ha]
  rfl

theorem build_of_error {e : Failure} (hsource : world.source block = .error e)
    (announced : Bool) : s.build world block announced = ⟨s, [.generate block], .error e⟩ := by
  rw [build, hsource]

/-- A snapshot that can be built is written, and published if it is shared. -/
theorem build_of_ok (ha : s.replica.inactive = false) (hsource : world.source block = .ok x)
    (announced : Bool) : s.build world block announced = ⟨s.holding x block,
      .generate block :: (if s.settings.sharesAs .master then [.store block x] else [])
        ++ (if announced then [.announce block] else []) ++ [.register block],
      world.registration⟩ := by
  rw [build, hsource]
  simp only [put_awake ha, registered]

theorem establish_of_unshared (hslave : s.settings.sharesAs .slave = false) :
    s.establish world block .usual = s.build world block false := by
  rw [establish, hslave]
  rfl

theorem establish_of_unpublished (hslave : s.settings.sharesAs .slave = true)
    (hnone : world.published = none) :
    s.establish world block .usual = s.build world block true := by
  rw [establish, if_pos hslave, hnone]

/-- A slave that finds a published record adopts it, and publishes nothing. -/
theorem establish_of_published (ha : s.replica.inactive = false)
    (hslave : s.settings.sharesAs .slave = true) {record : Record S}
    (hpublished : world.published = some record) :
    s.establish world block .usual = ⟨s.holding record.snapshot record.block,
      [.register (world.processed.getD record.block)], world.registration⟩ := by
  have hmaster : s.settings.sharesAs .master = false := Settings.sharesAs_of_ne hslave (by decide)
  rw [establish, if_pos hslave, hpublished]
  change s.adopt world record.snapshot record.block (world.processed.getD record.block) = _
  rw [adopt_awake ha, hmaster]
  rfl

end Awake

variable {id : Subscription} {venue : Venue S} {settings : Settings}

/-- A subscriber with its first snapshot. -/
def begun (id : Subscription) (venue : Venue S) (settings : Settings) (x : S) (block : Nat) :
    Subscriber S :=
  { new id venue settings with replica := (Replica.new settings.retention).apply (some x) block }

theorem begun_topped (block : Nat) : (begun id venue settings x block).replica.Topped :=
  Replica.Topped.of_apply rfl fun _ he => nomatch he

theorem holding_new : (new id venue settings).holding x block = begun id venue settings x block :=
  rfl

/-- A first snapshot is written at the block that was asked for, unless it comes
from the cache. -/
theorem establish_alone (hslave : settings.sharesAs .slave = false) {start : Start S}
    (hx : ((new id venue settings).establish world block start).subscriber.replica.current
      = some x) :
    ((new id venue settings).establish world block start).subscriber =
      begun id venue settings x block := by
  have hbuild : ∀ announced,
      ((new id venue settings).build world block announced).subscriber.replica.current = some x →
      ((new id venue settings).build world block announced).subscriber =
        begun id venue settings x block := by
    intro announced hx
    cases hsource : world.source block with
    | error e =>
        rw [build_of_error hsource] at hx
        cases hx
    | ok fresh =>
        rw [build_of_ok rfl hsource] at hx ⊢
        rw [Option.some.inj hx, holding_new]
  cases start with
  | supplied y =>
      cases hx
      rfl
  | fresh => exact hbuild false hx
  | usual =>
      rw [establish_of_unshared hslave] at hx ⊢
      exact hbuild false hx

/-- A slave that finds a published record adopts it. -/
theorem establish_published (hshares : settings.sharesAs .slave = true) {record : Record S}
    (hpublished : world.published = some record) (block : Nat) :
    (new id venue settings).establish world block .usual =
      ⟨begun id venue settings record.snapshot record.block,
        [.register (world.processed.getD record.block)], world.registration⟩ :=
  establish_of_published (s := new id venue settings) rfl hshares hpublished

/-- The usual start gives the snapshot from scratch, if nothing else is published. -/
theorem establish_usual (hsource : world.source block = .ok x)
    (hpublished : ∀ record, world.published = some record → record = ⟨block, x⟩) :
    ((new id venue settings).establish world block .usual).result = world.registration
      ∧ ((new id venue settings).establish world block .usual).subscriber =
        begun id venue settings x block := by
  cases hshares : settings.sharesAs .slave with
  | false =>
      rw [establish_of_unshared hshares, build_of_ok rfl hsource]
      exact ⟨rfl, rfl⟩
  | true =>
      cases hfound : world.published with
      | none =>
          rw [establish_of_unpublished hshares hfound, build_of_ok rfl hsource]
          exact ⟨rfl, rfl⟩
      | some record =>
          obtain rfl := hpublished record hfound
          rw [establish_published hshares hfound]
          exact ⟨rfl, rfl⟩

end Subscriber

end ChainReplica
