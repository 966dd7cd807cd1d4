import ChainReplica.Subscriber.Lifecycle
import ChainReplica.Subscriber.Update
import ChainReplica.Tracker
import ChainReplica.Venue.Reserves

/-!
# Following a pair on a node

`poll` asks a node for the newest block and delivers the blocks since the last
one in batches. Headers of a batch are shown to the tracker first:

- if they link, the logs are fetched and the subscriber is updated;
- if one of them replaces tracked blocks, the subscriber goes back to the fork
  point, and the new branch is delivered with the next polls;
- if one links to nothing, the canonical headers of the tracked range decide
  where to go back to, and without a common block the subscriber starts over.

A failed request ends the poll, and the next one goes on from the last block
that was processed. A follower that is too far behind starts over at the newest
block.
-/

namespace ChainReplica

/-- The pair that is followed, and how. -/
structure Plan where
  pair : Address
  /-- How many blocks a snapshot from scratch looks back. -/
  lookback : Nat
  /-- How many blocks behind the follower may be without starting over. -/
  maxCatchUp : Nat

/-- A follower, and the state of the node it asks. -/
structure Watch (σ : Type) where
  subscriber : Subscriber Reserves
  tracker : Tracker
  /-- The last block that was processed. -/
  last : Nat
  node : σ

/-- What a poll did. -/
inductive Notice where
  /-- Delivered a range of blocks with a number of logs; then the pointer and the
  snapshot are these. -/
  | delivered (first last events pointer : Nat) (held : Option Reserves)
  /-- Went back to a fork point. -/
  | rewound (forkPoint : Nat)
  /-- Started over at a block. -/
  | restarted (block : Nat)
  deriving DecidableEq, Repr

/-- How a poll ended. -/
structure Poll (σ : Type) where
  watch : Watch σ
  notices : List Notice
  /-- What the subscriber asked for, beyond snapshots from scratch. -/
  effects : List (Effect Reserves)
  result : Except Failure Unit

namespace Watch

variable {σ : Type}

/-- How many blocks are delivered at once. -/
def batchSize : Nat := 10

/-! ## Snapshots from scratch -/

def source (node : Node σ) (plan : Plan) (s : σ) : Source Reserves := fun block =>
  (Reserves.generate node plan.pair plan.lookback block s).1

/-- The state of the node after the snapshots from scratch that were asked for. -/
def charge (node : Node σ) (plan : Plan) (s : σ) (effects : List (Effect Reserves)) : σ :=
  effects.foldl (fun s effect => match effect with
    | .generate block => (Reserves.generate node plan.pair plan.lookback block s).2
    | _ => s) s

/-- The effects that somebody else has to carry out. -/
def outward (effects : List (Effect Reserves)) : List (Effect Reserves) :=
  effects.filter fun effect => match effect with
    | .generate _ => false
    | _ => true

/-! ## Going back and starting over -/

def rewindTo (w : Watch σ) (forkPoint : Nat) : Poll σ :=
  let (s, effects) := w.subscriber.invalidate.rollback forkPoint
  { watch := { w with subscriber := s, tracker := w.tracker.rewind forkPoint, last := forkPoint }
    notices := [.rewound forkPoint]
    effects := effects
    result := .ok () }

def restartAt (w : Watch σ) (block : Nat) : Poll σ :=
  let (s, effects) := w.subscriber.restart block
  { watch := { w with subscriber := s, tracker := w.tracker.reset, last := block - 1 }
    notices := [.restarted block]
    effects := effects
    result := .ok () }

def failed (w : Watch σ) (e : Failure) : Poll σ := ⟨w, [], [], .error e⟩

/-! ## One batch -/

/-- Shows headers to the tracker, up to the first one that does not extend it. -/
def observeAll (t : Tracker) : List Header → Linkage × Tracker
  | [] => (.extended, t)
  | h :: rest => match t.observe h with
    | (.extended, t) => observeAll t rest
    | (.known, t) => observeAll t rest
    | (linkage, t) => (linkage, t)

/-- Finds out where to go back to when a header links to nothing. -/
def resolve (node : Node σ) (w : Watch σ) (number : Nat) : Poll σ :=
  match node.fetchHeaders (w.tracker.oldest?.getD number) (number - 1) w.node with
  | (.error e, s) => failed { w with node := s } e
  | (.ok canonical, s) =>
    let w := { w with node := s }
    match w.tracker.forkPoint? canonical with
    | some forkPoint => { w with tracker := w.tracker.noteReorg }.rewindTo forkPoint
    | none => w.restartAt number

/-- Delivers the logs of blocks whose headers link. -/
def deliver (node : Node σ) (plan : Plan) (w : Watch σ) (first last : Nat) (headers : Headers) :
    Poll σ :=
  match Reserves.fetchLogs node plan.pair first last w.node with
  | (.error e, s) => failed { w with node := s } e
  | (.ok logs, s) =>
    let o := w.subscriber.update (source node plan s) logs headers
    let updated := { w with subscriber := o.subscriber, node := charge node plan s o.effects }
    match o.result with
    | .error e => ⟨updated, [], outward o.effects, .error e⟩
    | .ok () =>
      let replica := o.subscriber.replica
      ⟨{ updated with last := last },
        [.delivered first last logs.length replica.pointer replica.current],
        outward o.effects, .ok ()⟩

/-- Takes the next batch, up to the newest block. Answers whether to go on. -/
def takeBatch (node : Node σ) (plan : Plan) (w : Watch σ) (latest : Nat) : Bool × Poll σ :=
  let first := w.last + 1
  let last := min (w.last + batchSize) latest
  match node.fetchHeaders first last w.node with
  | (.error e, s) => (false, failed { w with node := s } e)
  | (.ok headers, s) =>
    let (linkage, tracker) := observeAll w.tracker headers.values
    let w := { w with node := s, tracker := tracker }
    match linkage with
    | .reorg forkPoint _ => (false, w.rewindTo forkPoint)
    | .unlinked number => (false, w.resolve node number)
    | _ =>
      let p := w.deliver node plan first last headers
      (p.result.isOk, p)

/-! ## A poll -/

/-- What happened first, then what happened after it. -/
def following (earlier later : Poll σ) : Poll σ :=
  { later with
    notices := earlier.notices ++ later.notices
    effects := earlier.effects ++ later.effects }

/-- Takes batches up to the newest block, at most `fuel` of them. -/
def catchUp (node : Node σ) (plan : Plan) (latest : Nat) : Nat → Watch σ → Poll σ
  | 0, w => ⟨w, [], [], .ok ()⟩
  | fuel + 1, w =>
    if latest ≤ w.last then ⟨w, [], [], .ok ()⟩
    else match w.takeBatch node plan latest with
      | (false, p) => p
      | (true, p) => following p (catchUp node plan latest fuel p.watch)

/-- Delivers what is new on the node. Every batch processes a block at least, so
there are at most as many batches as blocks. -/
def poll (node : Node σ) (plan : Plan) (w : Watch σ) : Poll σ :=
  match node.fetchLatest w.node with
  | (.error e, s) => failed { w with node := s } e
  | (.ok latest, s) =>
    let w := { w with node := s }
    if latest ≤ w.last then ⟨w, [], [], .ok ()⟩
    else if plan.maxCatchUp < latest - w.last then
      let p := w.restartAt latest
      following p (catchUp node plan latest (latest - p.watch.last) p.watch)
    else catchUp node plan latest (latest - w.last) w

/-! ## The first poll -/

/-- The block from which a subscriber that was set up gets its logs. -/
def baseline (start : Nat) (effects : List (Effect Reserves)) : Nat :=
  effects.foldl (fun found effect => match effect with
    | .register block => block
    | _ => found) start

/-- Sets the subscriber up, at the newest block if no other is named, and starts
to track the chain where its logs begin. -/
def start (node : Node σ) (plan : Plan) (subscriber : Subscriber Reserves)
    (startBlock : Option Nat) (s : σ) : Except Failure (Watch σ) × σ :=
  match node.fetchLatest s with
  | (.error e, s) => (.error e, s)
  | (.ok latest, s) =>
    let block := startBlock.getD latest
    let o := subscriber.establish ⟨source node plan s, none, none, .ok ()⟩ block .usual
    let s := charge node plan s o.effects
    match o.result with
    | .error e => (.error e, s)
    | .ok () =>
      let last := baseline block o.effects
      match node.fetchHeader last s with
      | (.error e, s) => (.error e, s)
      | (.ok header, s) =>
        let tracker := ((Tracker.new Tracker.defaultDepth).observe header).2
        (.ok ⟨o.subscriber, tracker, last, s⟩, s)

end Watch

end ChainReplica
