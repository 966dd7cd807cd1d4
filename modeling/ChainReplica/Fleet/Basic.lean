import ChainReplica.Cache.Store
import ChainReplica.Registry
import ChainReplica.Scheduler
import ChainReplica.Subscriber.Lifecycle
import ChainReplica.Subscriber.Update
import ChainReplica.Tally

/-!
# Subscribers that share a world

A `Fleet` is a list of subscribers over one cache, one registry, one scheduler
and one tally of messages, on a clock that moves only when it is told to. It
carries out the effects that operations ask for:

- writes to the cache are queued and run after the operation, in order;
- jobs that build a missing snapshot go to the scheduler;
- a refresh waits out its delay and then reads the cache.

`settle` lets everything run that is due: queued writes, jobs, refreshes, and
the writes that these two have queued. A failing cache costs nothing but the
write or the read.
-/

namespace ChainReplica

/-- A subscriber of a fleet, with its answers to calls for a snapshot from
scratch. -/
structure Member (S : Type) where
  subscriber : Subscriber S
  supply : Supply S
  /-- How many snapshots from scratch it has asked for. -/
  calls : Nat
  /-- Whether it was given up. -/
  released : Bool

/-- What a snapshot from scratch would be now. -/
def Member.source {S : Type} (m : Member S) : Source S := m.supply m.calls

inductive CacheWrite where
  | set (key : Subscription) (value : String) (ttl : Option Nat)
  | publish (topic payload : String)
  deriving DecidableEq, Repr

/-- Which calls to the cache fail. -/
structure Outage where
  get : Bool
  set : Bool
  publish : Bool
  deriving DecidableEq, Repr

def Outage.none : Outage := ⟨false, false, false⟩

def cacheUnreachable : Failure := .plain .cache "cache unreachable"

/-- The job that builds the missing snapshot of a member. -/
structure HealJob where
  member : Nat
  key : String
  block : Nat
  deriving DecidableEq, Repr

/-- Where submitted jobs go. -/
inductive Healing where
  /-- They are listed, and run when someone asks for it. -/
  | listed (jobs : List HealJob)
  /-- They are retried until they are done. -/
  | retried (scheduler : Scheduler HealJob)

def Healing.size : Healing → Nat
  | .listed jobs => jobs.length
  | .retried scheduler => scheduler.runningCount

/-- A refresh that waits. -/
structure Refresh where
  member : Nat
  due : Nat
  deriving DecidableEq, Repr

/-- Subscribers and the world they share. -/
structure Fleet (S : Type) where
  members : List (Member S)
  cache : Store
  outage : Outage
  /-- Whether registrations are turned down. -/
  rejecting : Bool
  registry : Registry
  healing : Healing
  tally : Tally
  refreshes : List Refresh
  /-- Writes that were started and have not run. -/
  queued : List CacheWrite
  /-- Writes that have run, failed ones too. -/
  written : List CacheWrite
  /-- The clock of delays. -/
  now : Nat
  /-- The clock that cached texts expire by. -/
  calendar : Nat

namespace Fleet

variable {S : Type}

def new (members : List (Member S)) (healing : Healing) (window : Nat) : Fleet S where
  members := members
  cache := .empty
  outage := .none
  rejecting := false
  registry := []
  healing := healing
  tally := .new window
  refreshes := []
  queued := []
  written := []
  now := 0
  calendar := 0

/-- The member at an index, if it was not given up. -/
def member? (f : Fleet S) (i : Nat) : Option (Member S) :=
  f.members[i]?.filter fun m => !m.released

def modify (f : Fleet S) (i : Nat) (change : Member S → Member S) : Fleet S :=
  { f with members := f.members.modify i change }

/-! ## Calls to the cache -/

def lookup (f : Fleet S) (key : Subscription) : Except Failure (Option String) :=
  if f.outage.get then .error cacheUnreachable else .ok (f.cache.value? f.calendar key)

/-- The published snapshot of a subscriber, if it is readable. -/
def published (f : Fleet S) (s : Subscriber S) : Option (Record S) :=
  match f.lookup s.id with
  | .ok (some text) => (Record.decode s.venue.codec text).toOption
  | _ => none

/-- The newest block that the masters of a group have processed. -/
def processed (f : Fleet S) (group : String) : Option Nat :=
  match f.lookup (Store.latestKey group) with
  | .ok (some text) => Store.readLatest? text
  | _ => none

/-- Runs a write. One that breaks off has no result. -/
def write (f : Fleet S) (w : CacheWrite) : Option (Except Failure Unit) × Fleet S :=
  let noted := { f with written := f.written ++ [w] }
  match w with
  | .set key value ttl =>
    if f.outage.set then (some (.error cacheUnreachable), noted)
    else (if Store.fits f.calendar ttl then some (.ok ()) else none,
      { noted with cache := f.cache.set f.calendar key value ttl })
  | .publish _ _ =>
    (some (if f.outage.publish then .error cacheUnreachable else .ok ()), noted)

/-- Starts a write that runs later. -/
def enqueue (f : Fleet S) (w : CacheWrite) : Fleet S := { f with queued := f.queued ++ [w] }

/-- Runs the queued writes in order. Failures are dropped. -/
def runQueued (f : Fleet S) : Fleet S :=
  f.queued.foldl (fun g w => (g.write w).2) { f with queued := [] }

/-! ## Carrying out effects -/

def register (f : Fleet S) (s : Subscriber S) (block : Nat) : Fleet S :=
  if f.rejecting then f
  else { f with registry := f.registry ++ [⟨s.id, s.venue.addresses, block⟩] }

def registration (f : Fleet S) (id : Subscription) : Except Failure Unit :=
  if f.rejecting then .error (.plain .delivery ("no route for " ++ id.text)) else .ok ()

/-- Submits the job that builds the missing snapshot of a member. -/
def submit (f : Fleet S) (job : HealJob) : Fleet S :=
  match f.healing with
  | .listed jobs => { f with healing := .listed (jobs ++ [job]) }
  | .retried scheduler =>
    { f with healing := .retried (scheduler.submit f.now job.key job) }

def scheduledKey : String := "cache-refresh-scheduled"

def coalescedKey : String := "cache-refresh-coalesced"

def note (f : Fleet S) (key : String) : Fleet S :=
  { f with tally := (f.tally.record f.calendar key).2 }

/-- Carries out one effect of the member at an index. -/
def carry (i : Nat) (s : Subscriber S) (f : Fleet S) : Effect S → Fleet S
  | .generate _ => f.modify i fun m => { m with calls := m.calls + 1 }
  | .store block snapshot =>
    f.enqueue (.set s.id (Record.encode s.venue.codec ⟨block, snapshot⟩) s.settings.cacheTtl)
  | .announce block =>
    f.enqueue (.publish s.settings.discoveryChannel
      (Announcement.codec.encode ⟨s.id, block, s.venue.identifier⟩))
  | .register block => f.register s block
  | .heal block => f.submit ⟨i, s.healKey, block⟩
  | .refresh =>
    let f := f.note scheduledKey
    { f with refreshes := f.refreshes ++ [⟨i, f.now + s.settings.refreshDelay⟩] }
  | .coalesce => f.note coalescedKey

/-- Puts the next state of the member at an index in place and carries out what
it asked for. -/
def commit (f : Fleet S) (i : Nat) (s : Subscriber S) (effects : List (Effect S)) : Fleet S :=
  effects.foldl (carry i s) (f.modify i fun m => { m with subscriber := s })

/-! ## What runs by itself -/

/-- One attempt of a job. The job of a member that was given up is done. -/
def attempt (f : Fleet S) (job : HealJob) : Bool × Fleet S :=
  match f.member? job.member with
  | none => (true, f)
  | some m =>
    let (done, s, effects) := m.subscriber.heal m.source job.block
    (done, f.commit job.member s effects)

def runJobs (f : Fleet S) : Fleet S :=
  match f.healing with
  | .listed _ => f
  | .retried scheduler =>
    let (left, g) := scheduler.wake f.now (fun t g => attempt g t.job) f
    { g with healing := .retried left }

/-- Ends a refresh. A member that was given up is there until its refresh has run. -/
def endRefresh (f : Fleet S) (r : Refresh) : Fleet S :=
  match f.members[r.member]? with
  | none => f
  | some m =>
    let (s, effects) := m.subscriber.absorb (f.published m.subscriber)
    f.commit r.member s effects

/-- Ends the refreshes that are due, in the order they were asked for. -/
def runRefreshes (f : Fleet S) : Fleet S :=
  let due := f.refreshes.filter fun r => r.due ≤ f.now
  due.foldl endRefresh { f with refreshes := f.refreshes.filter fun r => f.now < r.due }

/-- Lets everything run that is due. -/
def settle (f : Fleet S) : Fleet S := f.runQueued.runJobs.runRefreshes.runQueued

def advance (f : Fleet S) (span : Nat) : Fleet S := { f with now := f.now + span }

end Fleet

end ChainReplica
