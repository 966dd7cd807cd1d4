import ChainReplica.Proofs.Beginning
import ChainReplica.Proofs.Parallel
import ChainReplica.Proofs.SharedRecord

/-!
# A slave takes over where the master is

A slave that joins a fleet adopts the record that the master has published, which
may be much older than the newest block of the master: between the two, no block
changed the snapshot. So the slave and the master hold the same snapshot at the
same pointer, and go on doing so while both are given the newer blocks
(`Handover.level`).

They part when one of them rejects a batch that the other takes, which takes two
different policies (`Handover.parted`).
-/

namespace ChainReplica

variable {S : Type}

/-- Updates one after the other. -/
theorem Subscriber.perform_updates : ∀ (batches : List (Batch S)) (s : Subscriber S),
    s.perform (batches.map .update) = s.updateAll batches
  | [], _ => rfl
  | b :: rest, s => perform_updates rest (s.act (.update b))

/-- What is published is the record that the cache answers with. -/
theorem Fleet.published_of_lookup {f : Fleet S} {s : Subscriber S} {text : String}
    (h : f.lookup s.id = .ok (some text)) :
    f.published s = (Record.codec s.venue.codec).decode? text := by
  rw [Fleet.published, h]
  exact Record.decode_toOption _ _

/-! ## Joining -/

/-- A master that has lived in a fleet, and a slave that joins it. -/
structure Handover (S : Type) where
  fleet : Fleet S
  /-- What the two are known as. -/
  id : Subscription
  venue : Venue S
  /-- The index of the master, and its settings. -/
  master : Nat
  ours : Settings
  /-- What the first snapshot of the master was made of, and when. -/
  world : Surroundings S
  origin : Nat
  start : Start S
  /-- The batches that the master was given. -/
  batches : List (Batch S)
  /-- What happened until the newest block was made known, and since. -/
  before : List (Happening S)
  since : List (Happening S)
  newest : Nat
  /-- The index of the slave, its settings, and the slave itself. -/
  slave : Nat
  theirs : Settings
  follower : Member S

namespace Handover

variable (h : Handover S)

def run : List (Happening S) :=
  h.before ++ .obey (.publishLatest h.id.group h.newest) :: h.since

def reached : Fleet S := h.fleet.after h.run

def served : Subscriber S :=
  (Subscriber.new h.id h.venue h.ours).perform
    (.establish h.world h.origin h.start :: h.batches.map .update)

/-- The slave looks for its first snapshot. -/
def joined (block : Nat) : Outcome S :=
  h.follower.subscriber.establish (h.reached.surroundings h.follower) block .usual

/-- The master is the only one that publishes under the subscription, its writes
have run, and no call to the cache fails. It was given batches of ever newer
blocks, none newer than the newest block that was made known. -/
structure Sound (valid : Record S → Prop) : Prop where
  master_new : h.fleet.subscriber? h.master = some (.new h.id h.venue h.ours)
  master_shares : h.ours.sharesAs .master = true
  master_sole : ∀ j, h.fleet.Publishes h.id j → j = h.master
  life : h.fleet.actions h.master h.run =
    .establish h.world h.origin h.start :: h.batches.map .update
  established : ((Subscriber.new h.id h.venue h.ours).establish h.world h.origin
    h.start).subscriber.replica.hasSnapshot = true
  origin_le : h.origin ≤ h.newest
  blocks : ∀ n ∈ blocksOf h.batches, h.origin < n ∧ n ≤ h.newest
  sorted : (blocksOf h.batches).Pairwise (· < ·)
  undisturbed : h.fleet.Undisturbed h.id h.run
  written : h.reached.Written h.id
  readable : h.reached.outage.get = false
  faithful : (Record.codec h.venue.codec).Faithful valid
  served_valid : ∀ x, h.served.replica.current = some x → valid ⟨h.served.replica.pointer, x⟩
  /-- Nobody else writes the newest block, before or after. -/
  reserved : ∀ j, ¬h.fleet.Publishes (Store.latestKey h.id.group) j
  reserved_before : (h.fleet.after h.before).Written (Store.latestKey h.id.group)
  reserved_since : ((h.fleet.after h.before).happen
    (.obey (.publishLatest h.id.group h.newest))).Undisturbed (Store.latestKey h.id.group) h.since
  reserved_written : h.reached.Written (Store.latestKey h.id.group)
  newest_lt : h.newest < Numeral.countLimit
  slave_there : h.reached.member? h.slave = some h.follower
  slave_new : h.follower.subscriber = .new h.id h.venue h.theirs
  slave_shares : h.theirs.sharesAs .slave = true

/-- Both are given the same logs and headers, of newer and newer blocks. -/
structure Delivered (seen seen' : List (Batch S)) : Prop where
  told : List.Forall₂ (fun b c => c.logs = b.logs ∧ c.headers = b.headers) seen seen'
  blocks : ∀ n ∈ blocksOf seen, h.newest < n
  sorted : (blocksOf seen).Pairwise (· < ·)

namespace Sound

variable {h} {valid : Record S → Prop}

theorem reached_master (hs : h.Sound valid) :
    h.reached.subscriber? h.master = some h.served := by
  rw [reached, Fleet.subscriber?_after, hs.master_new, hs.life]
  rfl

/-- The master holds a snapshot, not newer than the newest block. -/
theorem served_topped (hs : h.Sound valid) :
    h.served.venue = h.venue ∧ h.served.settings = h.ours
      ∧ h.served.replica.Topped ∧ h.served.replica.pointer ≤ h.newest := by
  have hslave : h.ours.sharesAs .slave = false :=
    Settings.sharesAs_of_ne hs.master_shares (by decide)
  obtain ⟨x, hx⟩ := Replica.hasSnapshot_iff.mp hs.established
  have hbegun := Subscriber.establish_alone hslave hx
  have hserved : h.served =
      (Subscriber.begun h.id h.venue h.ours x h.origin).updateAll h.batches := by
    rw [served, Subscriber.perform, Subscriber.perform_updates, Subscriber.act, hbegun]
  have hP : Stable (fun r : Replica S => r.pointer ≤ h.newest) (· ≤ h.newest) :=
    fun r x n _ _ _ hn => hn
  obtain ⟨⟨hvenue, hsettings⟩, htopped⟩ :=
    (Subscriber.begun_topped h.origin).updateAll hP hs.origin_le hs.blocks hs.sorted
  rw [hserved]
  exact ⟨hvenue, hsettings, htopped⟩

theorem published (hs : h.Sound valid) {x : S} (hx : h.served.replica.current = some x) :
    h.reached.published h.follower.subscriber = some ⟨h.served.replica.pointer, x⟩ := by
  have hstart : h.fleet.Reflects h.master (.new h.id h.venue h.ours) :=
    ⟨hs.master_new, hs.master_sole, nofun⟩
  obtain ⟨s, halike, hafter⟩ := hstart.after h.run hs.master_shares hs.undisturbed
  obtain rfl : h.served = s := Option.some.inj (hs.reached_master.symm.trans hafter.member)
  have htext := hafter.text x hx
  rw [halike.id, Subscriber.textOf, halike.venue] at htext
  have hvalue := Fleet.value?_of_written hs.written hs.undisturbed.lasting htext
  have hlookup : h.reached.lookup h.id =
      .ok (some (Record.encode h.venue.codec ⟨h.served.replica.pointer, x⟩)) := by
    rw [Fleet.lookup, hs.readable]
    exact congrArg Except.ok hvalue
  rw [hs.slave_new]
  exact (Fleet.published_of_lookup hlookup).trans (hs.faithful _ (hs.served_valid x hx))

theorem processed (hs : h.Sound valid) : h.reached.processed h.id.group = some h.newest := by
  have hreached : h.reached = ((h.fleet.after h.before).happen
      (.obey (.publishLatest h.id.group h.newest))).after h.since := Fleet.after_append _ _ _
  have hworks : (h.fleet.after h.before).outage.set = false :=
    (Fleet.Undisturbed.of_append h.before hs.undisturbed).1.works
  have hnobody : ∀ j, ¬((h.fleet.after h.before).happen
      (.obey (.publishLatest h.id.group h.newest))).Publishes (Store.latestKey h.id.group) j :=
    fun j hj => hs.reserved j (Fleet.Publishes.of_after h.before hj.of_happen)
  have htext : h.reached.eventual (Store.latestKey h.id.group) =
      some (Store.latestText h.newest) := by
    rw [hreached, Fleet.eventual_after hnobody hs.reserved_since]
    exact Fleet.eventual_publishLatest_self hworks hs.reserved_before h.newest
  have hlasting : h.reached.Lasting (Store.latestKey h.id.group) :=
    hreached ▸ hs.reserved_since.lasting
  rw [Fleet.processed, Fleet.lookup, hs.readable,
    Fleet.value?_of_written hs.reserved_written hlasting htext]
  exact Store.readLatest?_latestText hs.newest_lt

/-- The slave adopts what the master has published. -/
theorem joined_eq (hs : h.Sound valid) {x : S} (hx : h.served.replica.current = some x)
    (block : Nat) :
    h.joined block = ⟨.begun h.id h.venue h.theirs x h.served.replica.pointer,
      [.register h.newest], h.reached.registration h.id⟩ := by
  rw [joined, hs.slave_new, Subscriber.establish_published hs.slave_shares (hs.published hx),
    Fleet.surroundings, hs.slave_new]
  exact congrArg (fun n => Outcome.mk _ [.register (Option.getD n _)] _) hs.processed

end Sound

/-! ## In step -/

/-- Two replicas that serve the same snapshot. -/
structure Level (a b : Replica S) : Prop where
  current : a.current = b.current
  pointer : a.pointer = b.pointer

theorem level_parallel : Parallel (Level (S := S)) where
  current h := h.current
  pointer h := h.pointer
  apply _ := ⟨rfl, rfl⟩

/-- A slave that joins builds no snapshot, and registers for logs from the newest
block on. From then on it holds the snapshot of the master at the same pointer,
after each batch of newer blocks that both are given, unless their policies differ
and a batch violates them. -/
theorem level {valid : Record S → Prop} (hs : h.Sound valid) (block : Nat) :
    (h.joined block).effects = [.register h.newest]
      ∧ (h.joined block).result = h.reached.registration h.id
      ∧ h.reached.subscriber? h.master = some h.served
      ∧ ∀ seen seen', h.Delivered seen seen' →
        (h.ours.policy = h.theirs.policy ∨ ∀ b ∈ seen, violations b.logs b.headers = []) →
          (h.served.updateAll seen).replica.hasSnapshot = true
            ∧ ((h.joined block).subscriber.updateAll seen').replica.current =
              (h.served.updateAll seen).replica.current
            ∧ ((h.joined block).subscriber.updateAll seen').replica.pointer =
              (h.served.updateAll seen).replica.pointer := by
  obtain ⟨hvenue, hsettings, htopped, hpointer⟩ := hs.served_topped
  obtain ⟨x, hx, -⟩ := htopped.top
  rw [hs.joined_eq hx]
  refine ⟨rfl, rfl, hs.reached_master, fun seen seen' hseen hpolicy => ?_⟩
  have htold : List.Forall₂ (Batch.Told h.served
      (.begun h.id h.venue h.theirs x h.served.replica.pointer)) seen seen' := by
    have hsame : ∀ b ∈ seen, h.ours.policy = h.theirs.policy ∨ violations b.logs b.headers = [] :=
      fun b hb => hpolicy.imp_right fun hclean => hclean b hb
    refine ((List.forall₂_and_left seen seen').mpr ⟨hsame, hseen.told⟩).imp ?_
    rintro b c ⟨hpolicy, hlogs, hheaders⟩
    refine ⟨hlogs, hheaders, ?_⟩
    rw [Subscriber.Rejects, Subscriber.Rejects, hsettings]
    rcases hpolicy with hpolicy | hclean
    · rw [hpolicy]
      rfl
    · simp [hclean]
  have hnewer : ∀ n ∈ blocksOf seen, h.served.replica.pointer < n :=
    fun n hn => Nat.lt_of_le_of_lt hpointer (hseen.blocks n hn)
  have hlevel := level_parallel.updateAll htold hvenue.symm ⟨hx, rfl⟩ htopped
    (Subscriber.begun_topped _) hnewer hseen.sorted
  have hany : Stable (fun _ : Replica S => True) fun _ => True := fun _ _ _ _ _ _ _ => trivial
  obtain ⟨-, hstill, -⟩ := htopped.updateAll hany trivial (fun n hn => ⟨hnewer n hn, trivial⟩)
    hseen.sorted
  exact ⟨hstill.holds.2, hlevel.current.symm, hlevel.pointer.symm⟩

/-! ## Two policies -/

/-- A master that takes strictly ordered batches only. -/
def strict : Settings := { Settings.default with shareCache := true, policy := .strict }

/-- A slave that takes every batch. -/
def lenient : Settings := { Settings.default with shareCache := true, role := .slave }

/-- A log in a block, perhaps with the header of the block. -/
def onelog (block : Nat) (headers : List Header) : Batch Counter :=
  ⟨Counter.supply 4 0 0, [⟨7, [], [], some block, some 0⟩], .ofList headers⟩

/-- The master starts at block 10. There is a log in block 12, and none in block 14. -/
def joining : Handover Counter where
  fleet := .new [⟨.new ⟨"g", "p"⟩ (Counter.venue 7) strict, Counter.supply 4 0, 0, false⟩,
    ⟨.new ⟨"g", "p"⟩ (Counter.venue 7) lenient, Counter.supply 4 0, 0, false⟩] (.listed [])
    Settings.default.aggregationWindow
  id := ⟨"g", "p"⟩
  venue := Counter.venue 7
  master := 0
  ours := strict
  world := ⟨Counter.supply 4 0 0, none, none, .ok ()⟩
  origin := 10
  start := .supplied ⟨4⟩
  batches := [onelog 12 [⟨12, 12, 11, 0⟩], ⟨Counter.supply 4 0 0, [], .ofList [⟨14, 14, 13, 0⟩]⟩]
  before := [.obey (.member 0 (.establish 10 (.supplied ⟨4⟩))), .write,
    .obey (.member 0 (.update [⟨7, [], [], some 12, some 0⟩] (.ofList [⟨12, 12, 11, 0⟩]))), .write,
    .obey (.member 0 (.update [] (.ofList [⟨14, 14, 13, 0⟩])))]
  since := []
  newest := 14
  slave := 1
  theirs := lenient
  follower := ⟨.new ⟨"g", "p"⟩ (Counter.venue 7) lenient, Counter.supply 4 0, 0, false⟩

theorem joining_sound : joining.Sound fun r =>
    r.block < Numeral.countLimit ∧ r.snapshot.count < Numeral.countLimit where
  master_new := rfl
  master_shares := rfl
  master_sole := by
    rintro j ⟨s, hs, -, hshares⟩
    match j, hs with
    | 0, _ => rfl
    | 1, hs =>
        cases hs
        cases hshares
  life := rfl
  established := rfl
  origin_le := by decide
  blocks := by decide
  sorted := by decide
  undisturbed := ⟨⟨rfl, by decide, by decide⟩, nofun, ⟨rfl, by decide, by decide⟩, nofun,
    ⟨rfl, by decide, by decide⟩, nofun, ⟨rfl, by decide, by decide⟩, nofun,
    ⟨rfl, by decide, by decide⟩, nofun, ⟨rfl, by decide, by decide⟩,
    show Store.latestKey "g" ≠ ⟨"g", "p"⟩ by decide, rfl, by decide, by decide⟩
  written := nofun
  readable := rfl
  faithful := Counter.record_faithful
  served_valid := by
    intro x hx
    have hcount : joining.served.replica.current = some ⟨5⟩ := rfl
    obtain rfl : (⟨5⟩ : Counter) = x := Option.some.inj (hcount.symm.trans hx)
    exact ⟨by decide, by decide⟩
  reserved := by
    rintro j ⟨s, hs, hid, -⟩
    match j, hs with
    | 0, hs =>
        cases hs
        exact absurd (congrArg Subscription.name hid) (by decide)
    | 1, hs =>
        cases hs
        exact absurd (congrArg Subscription.name hid) (by decide)
  reserved_before := nofun
  reserved_since := ⟨rfl, by decide, by decide⟩
  reserved_written := nofun
  newest_lt := by decide
  slave_there := rfl
  slave_new := rfl
  slave_shares := rfl

/-- The slave registers from block 14 on, with the snapshot of block 12, and counts
the log of block 16 as the master does. -/
theorem level_joining :
    (joining.joined 3).effects = [.register 14]
      ∧ ((joining.joined 3).subscriber.updateAll [onelog 16 [⟨16, 16, 15, 0⟩]]).replica.current =
        (joining.served.updateAll [onelog 16 [⟨16, 16, 15, 0⟩]]).replica.current := by
  obtain ⟨heffects, -, -, hlevel⟩ := level joining joining_sound 3
  have hseen : joining.Delivered [onelog 16 [⟨16, 16, 15, 0⟩]] [onelog 16 [⟨16, 16, 15, 0⟩]] :=
    ⟨.cons ⟨rfl, rfl⟩ .nil, by decide, by decide⟩
  have hclean : ∀ b ∈ [onelog 16 [⟨16, 16, 15, 0⟩]], violations b.logs b.headers = [] := by decide
  exact ⟨heffects, (hlevel _ _ hseen (Or.inr hclean)).2.1⟩

/-- Block 16 comes without its header. The master rejects the batch, and the slave
counts its log. -/
theorem parted : joining.Sound (fun r =>
      r.block < Numeral.countLimit ∧ r.snapshot.count < Numeral.countLimit)
    ∧ joining.Delivered [onelog 16 []] [onelog 16 []]
    ∧ (joining.served.updateAll [onelog 16 []]).replica.current = some ⟨5⟩
    ∧ ((joining.joined 3).subscriber.updateAll [onelog 16 []]).replica.current = some ⟨6⟩ := by
  have hjoined := joining_sound.joined_eq (x := ⟨5⟩) rfl 3
  refine ⟨joining_sound, ⟨.cons ⟨rfl, rfl⟩ .nil, by decide, by decide⟩, rfl, ?_⟩
  rw [hjoined]
  rfl

end Handover

end ChainReplica
