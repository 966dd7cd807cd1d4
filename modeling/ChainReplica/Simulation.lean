import ChainReplica.Cache.Store
import ChainReplica.Subscriber.Lifecycle
import ChainReplica.Subscriber.Update
import ChainReplica.Tracker
import ChainReplica.Venue.Counter

/-!
# A master and its slaves on a made-up chain

`simulate` sets up a master and some slaves that count the logs of one contract,
and delivers a chain of made-up blocks to all of them. At one block the chain may
turn out to have branched: the block before it is replaced, everyone goes back
behind it, and both blocks are delivered on the new branch.

Blocks are delivered without any waiting, so a refresh that a slave asks for
meanwhile does not get its turn.
-/

namespace ChainReplica

namespace Simulation

/-! ## The made-up chain -/

/-- The contract whose logs are counted. -/
def pool : Address := 0xc0c0c0c0c0c0c0c0c0c0c0c0c0c0c0c0c0c0c0c0

/-- What all subscribers are known as. -/
def subscription : Subscription := ⟨"simulation", "counter"⟩

/-- The hash of a block on a branch: the number in eight bytes, then the branch
in each of the others. -/
def hashOf (number branch : Nat) : Hash :=
  BitVec.ofNat 256 (Numeral.value 256 (number :: List.replicate 24 branch))

/-- A header on a branch, with its parent on another one perhaps. -/
def headerOf (number branch parentBranch : Nat) : Header where
  number := number
  hash := hashOf number branch
  parent := hashOf (number - 1) parentBranch
  timestamp := 1700000000 + number * 12

/-- How many logs a block has on a branch. -/
def logCount (number branch : Nat) : Nat := (number * 7 + branch * 5) % 4

def logsOf (number branch : Nat) : List Log :=
  (List.range (logCount number branch)).map fun index => ⟨pool, [], [], some number, some index⟩

/-! ## Delivery -/

/-- What happened, for those who watch. -/
inductive Event where
  /-- A block was delivered; what master and slaves count after it. -/
  | block (number : Nat) (counts : List (Option Nat))
  /-- A block was replaced. -/
  | reorg (block depth forkPoint : Nat)
  deriving DecidableEq, Repr

/-- The subscribers, master first, and the chain they have seen. -/
structure Stage where
  subscribers : List (Subscriber Counter)
  tracker : Tracker
  branch : Nat
  events : List Event

/-- Every snapshot from scratch starts at zero. -/
def source : Source Counter := Counter.supply 0 0 0

def updateAll (logs : List Log) (headers : Headers) :
    List (Subscriber Counter) → Except Failure (List (Subscriber Counter))
  | [] => .ok []
  | s :: rest =>
    let o := s.update source logs headers
    match o.result with
    | .error e => .error e
    | .ok () => (updateAll logs headers rest).map (o.subscriber :: ·)

def Stage.deliver (t : Stage) (header : Header) (branch : Nat) : Except Failure Stage := do
  let subscribers ← updateAll (logsOf header.number branch) (.ofList [header]) t.subscribers
  return { t with subscribers := subscribers, tracker := (t.tracker.observe header).2 }

def Stage.counts (t : Stage) : List (Option Nat) :=
  t.subscribers.map fun s => s.replica.current.map (·.count)

/-- Replaces the block before `number`, and delivers both on the new branch. -/
def Stage.replace (t : Stage) (number : Nat) : Except Failure Stage :=
  let branch := (t.branch + 1) % 256
  let sibling := headerOf (number - 1) branch t.branch
  match t.tracker.observe sibling with
  | (.reorg forkPoint depth, tracker) => do
    let rewound := t.subscribers.map fun s => (s.invalidate.rollback forkPoint).1
    let t := { t with
      subscribers := rewound
      tracker := tracker
      branch := branch
      events := t.events ++ [Event.reorg (number - 1) depth forkPoint] }
    let t ← t.deliver sibling branch
    t.deliver (headerOf number branch branch) branch
  | (_, tracker) => .ok { t with tracker := tracker }

/-- Delivers a block, which may replace the one before it. -/
def Stage.advance (t : Stage) (start : Nat) (reorgAt : Option Nat) (number : Nat) :
    Except Failure Stage := do
  let t ← t.deliver (headerOf number t.branch t.branch) t.branch
  let t ← if reorgAt = some number ∧ start + 2 ≤ number then t.replace number else .ok t
  return { t with events := t.events ++ [Event.block number t.counts] }

def Stage.run (start : Nat) (reorgAt : Option Nat) (t : Stage) (number : Nat) :
    Nat → Except Failure Stage
  | 0 => .ok t
  | count + 1 => do
    let t ← t.advance start reorgAt number
    Stage.run start reorgAt t (number + 1) count

/-! ## The simulation -/

def subscriber (settings : Settings) (role : Role) : Subscriber Counter :=
  .new subscription (Counter.venue pool) { settings with role := role }

/-- The cache after the writes that were asked for. -/
def cacheAfter (settings : Settings) (effects : List (Effect Counter)) : Store :=
  effects.foldl (fun cache effect => match effect with
    | .store block snapshot =>
      cache.set 0 subscription (Record.encode Counter.codec ⟨block, snapshot⟩) settings.cacheTtl
    | _ => cache) .empty

/-- What a cache answers to a subscriber that is set up. -/
def world (cache : Store) (processed : Option Nat) : Surroundings Counter where
  source := source
  published := (cache.value? 0 subscription).bind fun text =>
    (Record.decode Counter.codec text).toOption
  processed := processed
  registration := .ok ()

def setUp (s : Subscriber Counter) (w : Surroundings Counter) (start : Nat) :
    Except Failure (Outcome Counter) :=
  let o := s.establish w start .usual
  o.result.map fun () => o

structure Report where
  finalBlock : Nat
  master : Option Nat
  slaves : List (Option Nat)
  reorgs : Nat
  events : List Event
  deriving DecidableEq, Repr

/-- Whether the master has a count and all slaves agree with it. -/
def Report.converged (r : Report) : Bool :=
  r.master.isSome && r.slaves.all (· == r.master)

/-- Runs the simulation. The master has published its first snapshot before the
slaves look for it. -/
def simulate (settings : Settings) (start blocks slaveCount : Nat) (reorgAt : Option Nat) :
    Except Failure Report := do
  let master ← setUp (subscriber settings .master) (world .empty none) start
  let cache := cacheAfter settings master.effects
  let slaves ← (List.replicate slaveCount (subscriber settings .slave)).mapM fun s =>
    setUp s (world cache (some start)) start
  let t : Stage := {
    subscribers := master.subscriber :: slaves.map (·.subscriber)
    tracker := ((Tracker.new Tracker.defaultDepth).observe (headerOf start 0 0)).2
    branch := 0
    events := [] }
  let t ← Stage.run start reorgAt t (start + 1) blocks
  return {
    finalBlock := start + blocks
    master := t.counts.head?.join
    slaves := t.counts.drop 1
    reorgs := t.tracker.reorgs
    events := t.events }

end Simulation

end ChainReplica
