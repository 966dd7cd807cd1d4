import ChainReplica.Command.Run

/-!
# The program

Reads the arguments and the environment, runs the command, prints its lines, and
ends with its code. A failure goes to the standard error. This program has no
connection to a network: a node is never reached, and following a pair ends with
that failure.
-/

namespace ChainReplica

namespace Main

/-- The environment variables that mean something. -/
def variableNames : List String :=
  ["SYNC_ROLE", "SHARE_CACHE", "RETENTION_WINDOW", "CACHE_TTL_SECS", "CACHE_REFRESH_DELAY_MS",
   "LOG_AGGREGATION_WINDOW_SECS", "STRICT_BATCH_ORDERING", "SELF_HEAL_INITIAL_DELAY_MS",
   "SELF_HEAL_MAX_DELAY_MS", "DISCOVERY_CHANNEL", "RPC_URL", "ALCHEMY_API_KEY", "POOL_ADDRESS",
   "GENERATION_LOOKBACK_BLOCKS", "LOG_FILE"]

def readEnvironment : IO Environment :=
  variableNames.filterMapM fun name => do
    return (← IO.getEnv name).map fun value => (name, value)

/-- Makes the directory of the log file. Answers what is known of the file system then. -/
def explore (env : Environment) : IO LogFile.Terrain := do
  match env.get? "LOG_FILE" with
  | none => return ⟨[], []⟩
  | some path =>
    let place := LogFile.directory path
    try
      IO.FS.createDirAll place
      return ⟨[], []⟩
    catch _ => return ⟨[place], []⟩

def print (lines : List String) : IO Unit := lines.forM IO.println

/-- Polls without end, with a pause between the polls. -/
partial def follow (plan : Plan) (interval : Nat) (w : Watch Unit) : IO UInt32 := do
  let p := w.poll Node.unreachable plan
  print (Command.pollLines p)
  IO.sleep (UInt32.ofNat (Span.seconds interval))
  follow plan interval p.watch

def run (arguments : List String) : IO UInt32 := do
  let env ← readEnvironment
  let terrain ← explore env
  match (Command.run arguments env terrain Node.unreachable ()).1 with
  | .finished finish =>
    print finish.lines
    if let some e := finish.failure then IO.eprintln e.text
    return UInt32.ofNat finish.code
  | .following lines plan interval w =>
    print lines
    follow plan interval w

end Main

end ChainReplica

def main (arguments : List String) : IO UInt32 := ChainReplica.Main.run arguments
