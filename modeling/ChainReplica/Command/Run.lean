import ChainReplica.Command.Arguments
import ChainReplica.Command.LogFile
import ChainReplica.Node.Location
import ChainReplica.Simulation
import ChainReplica.Watch

/-!
# Running a command

What the commands print and how they end. `run` answers with the lines of a
command and its end. Following a pair has no end of its own: once it is set up,
the answer holds a follower, which `pollLines` moves on and `farewell` takes
leave of.
-/

namespace ChainReplica

namespace Command

/-! ## Lines -/

/-- A count, or a dash for a missing one. -/
def cell (n : Option Nat) : String :=
  match n with
  | some n => toString n
  | none => "-"

/-- What each subscriber counts: the master first, the slaves by their number. -/
def countCells (counts : List (Option Nat)) : List String :=
  (counts.zipIdx).map fun (count, i) =>
    let label := if i = 0 then "master" else "slave" ++ toString i
    label ++ "=" ++ cell count

def eventLine : Simulation.Event → String
  | .block number counts =>
    "Block: " ++ toString number ++ " | " ++ " ".intercalate (countCells counts)
  | .reorg block depth forkPoint =>
    "🔀 reorg at block " ++ toString block ++ ", rolling back " ++ toString depth
      ++ " blocks to " ++ toString forkPoint

def verdict (r : Simulation.Report) : String :=
  if r.converged then
    "✅ all " ++ toString r.slaves.length ++ " slaves match the master at block "
      ++ toString r.finalBlock ++ " (" ++ toString r.reorgs ++ " reorgs)"
  else "⚠️ slaves diverged from the master at block " ++ toString r.finalBlock

/-- A span of time that may be missing. -/
def optionalSpan (span : Option Nat) : String :=
  match span with
  | some span => "Some(" ++ Span.text span ++ ")"
  | none => "None"

def settingsLines (s : Settings) : List String :=
  ["Engine",
   "  role:                 " ++ s.role.text,
   "  share cache:          " ++ (if s.shareCache then "true" else "false"),
   "  retention window:     " ++ toString s.retention ++ " blocks",
   "  cache ttl:            " ++ optionalSpan s.cacheTtl,
   "  cache refresh delay:  " ++ Span.text s.refreshDelay,
   "  log aggregation:      " ++ Span.text s.aggregationWindow,
   "  batch policy:         " ++ s.policy.text,
   "  self-heal backoff:    " ++ Span.text s.healInitial ++ " .. " ++ Span.text s.healMax,
   "  discovery channel:    " ++ s.discoveryChannel]

def endpointLines : Except Failure Endpoint → List String
  | .ok e =>
    ["  endpoint:             " ++ e.shownUrl,
     "  pool:                 " ++ e.pool,
     "  generation lookback:  " ++ toString e.lookback ++ " blocks"]
  | .error e => ["  " ++ e.text]

def noticeLine? : Notice → Option String
  | .delivered _ _ events pointer held =>
    if events = 0 then none
    else
      let start := "📊 Block: " ++ toString pointer ++ " | "
      match held with
      | some r => some (start ++ "reserve0: " ++ toString r.reserve0 ++ " | reserve1: "
          ++ toString r.reserve1 ++ " | events: " ++ toString events)
      | none => some (start ++ "no state, self-heal pending")
  | .rewound forkPoint =>
    some ("🔀 reorg detected, rolling back to block " ++ toString forkPoint)
  | .restarted _ => none

/-- The lines of a poll. A failure is shown and not the end. -/
def pollLines {σ : Type} (p : Poll σ) : List String :=
  p.notices.filterMap noticeLine? ++ match p.result with
    | .ok () => []
    | .error e => ["⚠️  Error: " ++ e.text]

def farewell {σ : Type} (w : Watch σ) : List String :=
  ["", "🛑 Shutting down...", "📍 Last processed block: " ++ toString w.last]

/-! ## Commands -/

/-- How a command ended. -/
structure Finish where
  code : Nat
  lines : List String
  failure : Option Failure
  deriving DecidableEq, Repr

def Finish.good (lines : List String) : Finish := ⟨0, lines, none⟩

def Finish.bad (lines : List String) (e : Failure) : Finish := ⟨1, lines, some e⟩

/-- What a command leads to. -/
inductive Course (σ : Type) where
  | finished (finish : Finish)
  /-- The lines so far, how to go on, with how many seconds between the polls. -/
  | following (lines : List String) (plan : Plan) (interval : Nat) (watch : Watch σ)

def versionLine : String := "dex-state-sync 0.1.0"

def runConfig (env : Environment) : Finish :=
  match Settings.ofEnvironment env with
  | .error e => .bad [] e
  | .ok s => .good (settingsLines s ++ ["RPC"] ++ endpointLines (Endpoint.ofEnvironment env))

/-- Runs the simulation from block 1000 on, with a shared cache. -/
def runSimulate (env : Environment) (blocks slaves : Nat) (reorgAt : Option Nat) : Finish :=
  let opening := ["Simulating master/slave synchronization...", ""]
  let report := do
    let settings ← Settings.ofEnvironment env
    Simulation.simulate { settings with shareCache := true } 1000 blocks slaves reorgAt
  match report with
  | .error e => .bad opening e
  | .ok r => .good (opening ++ r.events.map eventLine ++ ["", verdict r])

def pairOf (e : Endpoint) : Except Failure Address :=
  match Address.read? e.pool with
  | some pair => .ok pair
  | none => .error (.because .configuration ("Invalid POOL_ADDRESS " ++ e.pool)
      (some "not a hexadecimal number"))

/-- The settings, the pair and the lookback of an environment, in the order in
which their mistakes count. -/
def watchSettings (env : Environment) : Except Failure (Settings × Address × Nat) := do
  let settings ← Settings.ofEnvironment env
  let endpoint ← Endpoint.ofEnvironment env
  checkLocation endpoint.url
  let pair ← pairOf endpoint
  return (settings, pair, endpoint.lookback)

/-- What a follower of a pair is known as. -/
def pairSubscription (pair : Address) : Subscription :=
  ⟨"mainnet", "uniswap-v2-" ++ pair.checksumText⟩

def runWatch {σ : Type} (env : Environment) (node : Node σ) (s : σ) (interval : Nat)
    (startBlock : Option Nat) (maxCatchUp : Nat) : Course σ × σ :=
  let opening := ["🔍 Watching pool reserves...", ""]
  match watchSettings env with
  | .error e => (.finished (.bad opening e), s)
  | .ok (settings, pair, lookback) =>
    let plan : Plan := ⟨pair, lookback, maxCatchUp⟩
    let subscriber := Subscriber.new (pairSubscription pair) (Reserves.venue pair) settings
    match Watch.start node plan subscriber startBlock s with
    | (.error e, s) => (.finished (.bad opening e), s)
    | (.ok w, s) => (.following opening plan interval w, s)

/-- The code of an end that nobody has provided for. -/
def brokenOffCode : Nat := 101

/-- Runs a command line on a file system of which `terrain` is known. -/
def run {σ : Type} (arguments : List String) (env : Environment) (terrain : LogFile.Terrain)
    (node : Node σ) (s : σ) : Course σ × σ :=
  match ((env.get? "LOG_FILE").map (LogFile.prepare terrain)).getD .ready with
  | .refused e => (.finished (.bad [] e), s)
  | .unwritable => (.finished ⟨brokenOffCode, [], none⟩, s)
  | .ready => match Invocation.read? arguments with
    | none => (.finished ⟨2, [], none⟩, s)
    | some .version => (.finished (.good [versionLine]), s)
    | some .help => (.finished (.good []), s)
    | some .config => (.finished (runConfig env), s)
    | some (.simulate blocks slaves reorgAt) =>
      (.finished (runSimulate env blocks slaves reorgAt), s)
    | some (.watch interval startBlock maxCatchUp) =>
      runWatch env node s interval startBlock maxCatchUp

end Command

end ChainReplica
