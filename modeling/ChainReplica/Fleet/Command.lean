import ChainReplica.Fleet.Basic

/-!
# Commands to a fleet

Everything that can be done with a fleet from outside, as one type of commands,
and `Fleet.step`, which obeys a command and lets run what is due. A run of a
fleet is a list of commands.
-/

namespace ChainReplica

/-- A command to one member. -/
inductive MemberCommand (S : Type) where
  | establish (block : Nat) (start : Start S)
  | update (logs : List Log) (headers : Headers)
  | rollback (block : Nat)
  | restart (block : Nat)
  | invalidate
  | inactivate
  | put (snapshot : Option S) (block : Nat)
  | read (least : Nat)
  | checkpoint (block : Nat)
  | identify

inductive Command (S : Type) where
  | member (i : Nat) (command : MemberCommand S)
  /-- Gives a member up, if that was not done before. -/
  | release (i : Nat)
  | cacheSet (key : Subscription) (value : String) (ttl : Option Nat)
  | cacheGet (key : Subscription)
  | fail (outage : Outage)
  | publishLatest (group : String) (block : Nat)
  | fetchLatest (group : String)
  | reject (on : Bool)
  | registration (id : Subscription)
  | runJob (index : Nat)
  | advance (span : Nat)

inductive Reply where
  | nothing
  | outcome (result : Except Failure Unit)
  /-- The member was given up. -/
  | released
  | snapshot (written : Option Json.Value)
  | text (found : Option String)
  | number (found : Option Nat)
  | identity (id : Subscription) (role : Role) (retention : Nat)
  | job (ran : Option (String × Bool))

namespace Fleet

variable {S : Type}

/-- What the world answers to a member that is set up. -/
def surroundings (f : Fleet S) (m : Member S) : Surroundings S where
  source := m.source
  published := f.published m.subscriber
  processed := f.processed m.subscriber.id.group
  registration := f.registration m.subscriber.id

def written? (m : Member S) (snapshot : Option S) : Reply :=
  .snapshot (snapshot.map m.subscriber.venue.codec.write)

/-- Obeys a command to a member that is there. -/
def obeyMember (f : Fleet S) (i : Nat) (m : Member S) : MemberCommand S → Reply × Fleet S
  | .establish block start =>
    let o := m.subscriber.establish (f.surroundings m) block start
    (.outcome o.result, f.commit i o.subscriber o.effects)
  | .update logs headers =>
    let o := m.subscriber.update m.source logs headers
    (.outcome o.result, f.commit i o.subscriber o.effects)
  | .rollback block =>
    let (s, effects) := m.subscriber.rollback block
    (.nothing, f.commit i s effects)
  | .restart block =>
    let (s, effects) := m.subscriber.restart block
    (.nothing, f.commit i s effects)
  | .invalidate => (.nothing, f.commit i m.subscriber.invalidate [])
  | .inactivate => (.nothing, f.commit i m.subscriber.inactivate [])
  | .put snapshot block =>
    let (s, effects) := m.subscriber.put snapshot block
    (.nothing, f.commit i s effects)
  | .read least => (written? m (m.subscriber.read? least), f)
  | .checkpoint block => (written? m (m.subscriber.replica.history.get? block), f)
  | .identify =>
    (.identity m.subscriber.id m.subscriber.settings.role m.subscriber.settings.retention, f)

def runListed (f : Fleet S) (index : Nat) : Reply × Fleet S :=
  match f.healing with
  | .retried _ => (.job none, f)
  | .listed jobs => match jobs[index]? with
    | none => (.job none, f)
    | some job =>
      let (done, f) := f.attempt job
      (.job (some (job.key, done)), f)

def obey (f : Fleet S) : Command S → Reply × Fleet S
  | .member i command => match f.member? i with
    | none => (.released, f)
    | some m => f.obeyMember i m command
  | .release i => (.nothing, f.modify i fun m => { m with released := true })
  | .cacheSet key value ttl =>
    (if Store.fits f.calendar ttl then .outcome (.ok ()) else .nothing,
      { f with cache := f.cache.set f.calendar key value ttl })
  | .cacheGet key =>
    let (found, cache) := f.cache.get f.calendar key
    (.text found, { f with cache := cache })
  | .fail outage => (.nothing, { f with outage := outage })
  | .publishLatest group block =>
    let (result, f) := f.write (.set (Store.latestKey group) (Store.latestText block) none)
    (result.elim .nothing .outcome, f)
  | .fetchLatest group => (.number (f.processed group), f)
  | .reject on => (.nothing, { f with rejecting := on })
  | .registration id => (.number ((f.registry.find? id).map (·.fromBlock)), f)
  | .runJob index => f.runListed index
  | .advance span => (.nothing, f.advance span)

/-- Obeys a command, and lets everything run that is due then. -/
def step (f : Fleet S) (command : Command S) : Reply × Fleet S :=
  let (reply, f) := f.obey command
  (reply, f.settle)

end Fleet

end ChainReplica
