import ChainReplica.Failure
import ChainReplica.Text.Blank
import ChainReplica.Text.Span

/-!
# Settings

How a subscriber behaves (`Settings`) and where the command line finds its node
(`Endpoint`). Both are read from environment variables; every setting of a
subscriber has a default. Variables are read in a fixed order, and the first
one that cannot be read decides the failure.
-/

namespace ChainReplica

abbrev Environment := List (String × String)

def Environment.get? (env : Environment) (name : String) : Option String :=
  (env.find? fun v => v.1 == name).map (·.2)

/-! ## Roles -/

/-- The part a process plays for the snapshots of a subscription. -/
inductive Role where
  /-- Publishes the snapshots it writes. -/
  | master
  /-- Adopts published snapshots instead of building its own. -/
  | slave
  deriving DecidableEq, Repr

namespace Role

def text : Role → String
  | .master => "master"
  | .slave => "slave"

def ofName? (name : String) : Option Role :=
  if name = "master" then some .master
  else if name = "slave" then some .slave
  else none

/-- Reads a role, without regard to white space at the ends and to the case of
Latin letters. -/
def read (s : String) : Except Failure Role :=
  let name := String.ofList ((trimBlank s).toList.map Char.toLower)
  match ofName? name with
  | some role => .ok role
  | none => .error <| .plain .configuration <|
      "SYNC_ROLE must be 'master' or 'slave', got: " ++ name

end Role

/-! ## Settings of a subscriber -/

/-- What happens to a batch with violations. -/
inductive BatchPolicy where
  /-- It is applied all the same. -/
  | lenient
  /-- It is rejected as a whole. -/
  | strict
  deriving DecidableEq, Repr

def BatchPolicy.text : BatchPolicy → String
  | .lenient => "Lenient"
  | .strict => "Strict"

/-- How a subscriber behaves. Spans of time are in milliseconds. -/
structure Settings where
  role : Role
  shareCache : Bool
  /-- How many blocks the history reaches back. -/
  retention : Nat
  /-- How long a published snapshot lasts; for good without a value. -/
  cacheTtl : Option Nat
  /-- How long a requested refresh from the cache waits for further requests. -/
  refreshDelay : Nat
  /-- For how long repeated messages are counted before they are shown. -/
  aggregationWindow : Nat
  policy : BatchPolicy
  /-- How long the second attempt at a missing snapshot waits. -/
  healInitial : Nat
  /-- How long an attempt waits at most. -/
  healMax : Nat
  /-- Where subscriptions without a published snapshot are announced. -/
  discoveryChannel : String
  deriving DecidableEq, Repr

namespace Settings

/-- The settings of an empty environment. -/
def default : Settings where
  role := .master
  shareCache := false
  retention := 1000
  cacheTtl := some (Span.seconds 3600)
  refreshDelay := 100
  aggregationWindow := Span.seconds 60
  policy := .lenient
  healInitial := 1000
  healMax := 60000
  discoveryChannel := "subscription-discovery"

/-- Whether the subscriber shares snapshots in the role. -/
def sharesAs (s : Settings) (role : Role) : Bool := s.shareCache && s.role == role

end Settings

/-! ## Reading variables -/

def readFlag? (s : String) : Option Bool :=
  if s = "true" then some true
  else if s = "false" then some false
  else none

/-- Reads a variable without white space at its ends. An unset variable has its
default. -/
def Environment.parse {α : Type} (env : Environment) (name : String) (fallback : α)
    (read? : String → Option α) (expected : String) : Except Failure α :=
  match env.get? name with
  | none => .ok fallback
  | some raw => match read? (trimBlank raw) with
    | some x => .ok x
    | none => .error <| .because .configuration (name ++ " has an invalid value: " ++ raw)
        (some ("expected " ++ expected))

def Environment.count (env : Environment) (name : String) (fallback : Nat) : Except Failure Nat :=
  env.parse name fallback Numeral.readCount? "an unsigned 64-bit number"

def Environment.flag (env : Environment) (name : String) (fallback : Bool) : Except Failure Bool :=
  env.parse name fallback readFlag? "true or false"

def Settings.ofEnvironment (env : Environment) : Except Failure Settings := do
  let fallback := Settings.default
  let role ← match env.get? "SYNC_ROLE" with
    | some value => Role.read value
    | none => .ok fallback.role
  let shareCache ← env.flag "SHARE_CACHE" fallback.shareCache
  let retention ← env.count "RETENTION_WINDOW" fallback.retention
  if retention = 0 then
    throw (.plain .configuration "RETENTION_WINDOW must be at least 1 block")
  let ttl ← env.count "CACHE_TTL_SECS" 3600
  let refreshDelay ← env.count "CACHE_REFRESH_DELAY_MS" fallback.refreshDelay
  let window ← env.count "LOG_AGGREGATION_WINDOW_SECS" 60
  let strict ← env.flag "STRICT_BATCH_ORDERING" false
  let healInitial ← env.count "SELF_HEAL_INITIAL_DELAY_MS" fallback.healInitial
  let healMax ← env.count "SELF_HEAL_MAX_DELAY_MS" fallback.healMax
  return {
    role := role
    shareCache := shareCache
    retention := retention
    cacheTtl := if ttl = 0 then none else some (Span.seconds ttl)
    refreshDelay := refreshDelay
    aggregationWindow := Span.seconds window
    policy := if strict then .strict else .lenient
    healInitial := healInitial
    healMax := healMax
    discoveryChannel := (env.get? "DISCOVERY_CHANNEL").getD fallback.discoveryChannel }

/-! ## Where the node is -/

/-- The node and the pool that the command line follows. -/
structure Endpoint where
  url : String
  /-- The address of the pool, as it was given. -/
  pool : String
  /-- How many blocks a snapshot from scratch looks back. -/
  lookback : Nat
  deriving DecidableEq, Repr

namespace Endpoint

/-- The pool that is followed when no other is named. -/
def defaultPool : String := "0x0d4a11d5EEaaC28EC3F61d100daF4d40471f1852"

/-- The key that stands in for one not filled in yet. -/
def placeholderKey : String := "your_alchemy_api_key_here"

/-- The address of the node, or the hosted one that a key belongs to. -/
def urlOf (env : Environment) : Except Failure String :=
  match (env.get? "RPC_URL").filter (· != "") with
  | some url => .ok url
  | none => match env.get? "ALCHEMY_API_KEY" with
    | none => .error <| .because .configuration
        "RPC_URL or ALCHEMY_API_KEY environment variable is required"
        (some "environment variable not found")
    | some key =>
      if key = "" ∨ key = placeholderKey then
        .error <| .plain .configuration "ALCHEMY_API_KEY must be set to a valid Alchemy API key"
      else .ok ("https://eth-mainnet.g.alchemy.com/v2/" ++ key)

def hasAddressShape (pool : String) : Bool := pool.startsWith "0x" && pool.utf8ByteSize == 42

def ofEnvironment (env : Environment) : Except Failure Endpoint := do
  let url ← urlOf env
  let pool := (env.get? "POOL_ADDRESS").getD defaultPool
  if !hasAddressShape pool then
    throw (.plain .configuration
      ("POOL_ADDRESS must be a valid Ethereum address (0x + 40 hex chars), got: " ++ pool))
  let lookback ← env.count "GENERATION_LOOKBACK_BLOCKS" 5000
  return ⟨url, pool, lookback⟩

/-- What may be shown of the address of the node: the part before the key. -/
def shownUrl (e : Endpoint) : String := (e.url.splitOn "/v2/").headD ""

end Endpoint

end ChainReplica
