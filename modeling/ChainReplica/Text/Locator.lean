import ChainReplica.Text.Host

/-!
# Addresses of servers

`Locator.valid` says whether a text is the absolute address of a resource: a
scheme, and what the scheme calls for behind its colon. For the schemes of the
web this is a host, perhaps with a user before it and a port of sixteen bits
behind it; for files a host, or none. Other schemes call for nothing, but what
begins like a host has to be one. What follows may be anything.
-/

namespace ChainReplica

namespace Locator

/-! ## Schemes -/

/-- What a scheme calls for. -/
inductive Kind where
  /-- A host of the web. -/
  | web
  /-- A path, perhaps on a host. -/
  | file
  /-- Anything. -/
  | other
  deriving DecidableEq

def kindOf (scheme : String) : Kind :=
  if ["http", "https", "ws", "wss", "ftp"].contains scheme then .web
  else if scheme = "file" then .file
  else .other

/-- Whether a character may stand in a scheme, behind its first letter. -/
def inScheme (c : Char) : Bool := c.isAlphanum || c == '+' || c == '-' || c == '.'

/-- The scheme in lower case, and what follows its colon. -/
def splitScheme? (cs : List Char) : Option (String × List Char) :=
  match cs.dropWhile inScheme with
  | ':' :: rest =>
    let scheme := cs.takeWhile inScheme
    if scheme.head?.any Char.isAlpha then some (String.ofList (scheme.map Char.toLower), rest)
    else none
  | _ => none

/-! ## Users, hosts and ports -/

def isSlash (c : Char) : Bool := c == '/' || c == '\\'

/-- Whether a character ends user, host and port. On the web and for files both
kinds of slashes do. -/
def endsAuthority (web : Bool) (c : Char) : Bool :=
  c == '/' || c == '?' || c == '#' || (web && c == '\\')

/-- The user before the last sign between user and host, if there is one, and
what stands behind it. -/
def splitUser (authority : List Char) : Option (List Char) × List Char :=
  if authority.contains '@' then
    let behind := (authority.reverse.takeWhile (· != '@')).reverse
    (some (authority.take (authority.length - behind.length - 1)), behind)
  else (none, authority)

/-- Host and port, split at the first colon outside brackets. -/
def splitPort (inside : Bool) : List Char → List Char × Option (List Char)
  | [] => ([], none)
  | c :: rest =>
    if c = ':' ∧ !inside then ([], some rest)
    else
      let inside := if c = '[' then true else if c = ']' then false else inside
      let (host, port) := splitPort inside rest
      (c :: host, port)

/-- A port of sixteen bits, or none at all, up to the end or a slash. -/
def isPort (cs : List Char) : Bool :=
  (cs.dropWhile Char.isDigit).head?.all isSlash
    && Numeral.value 10 ((cs.takeWhile Char.isDigit).filterMap Numeral.digitValue?) < 65536

/-- Whether a user needs no host: there is none, or it is a colon without name
and password. An empty one counts only if nothing at all follows the host. -/
def needsNoHost (user : Option (List Char)) (last : Bool) : Bool :=
  match user with
  | none => true
  | some [] => last
  | some name => name == [':']

/-- Whether a text begins with a good host and a good port. -/
def isAuthority (web : Bool) (cs : List Char) : Bool :=
  let authority := cs.takeWhile fun c => !endsAuthority web c
  let last := (cs.dropWhile fun c => !endsAuthority web c).isEmpty
  let (user, behind) := splitUser authority
  let (host, port) := splitPort false behind
  let hostGood := if host.isEmpty then !web && port.isNone && needsNoHost user last
    else if web then Host.isWeb host else Host.isOpaque host
  hostGood && port.all isPort

/-! ## Addresses -/

/-- The letter of a drive, which is no host. -/
def isDrive (cs : List Char) : Bool :=
  cs.length == 2 && cs.head?.any Char.isAlpha && (cs.drop 1 == [':'] || cs.drop 1 == ['|'])

/-- Whether what follows the colon of a scheme is what the scheme calls for. -/
def isRest (kind : Kind) (rest : List Char) : Bool :=
  match kind with
  | .web => isAuthority true (rest.dropWhile isSlash)
  | .file => match rest with
    | a :: b :: cs =>
      let host := cs.takeWhile fun c => !endsAuthority true c
      !(isSlash a && isSlash b) || host.isEmpty || isDrive host || Host.isWeb host
    | _ => true
  | .other => match rest with
    | '/' :: '/' :: cs => isAuthority false cs
    | _ => true

/-- Without blanks and control characters at the ends, and without line breaks
and tabs inside. -/
def clean (s : String) : List Char :=
  let outer (c : Char) : Bool := c.toNat ≤ 32
  (((s.toList.dropWhile outer).reverse.dropWhile outer).reverse).filter
    fun c => c != '\t' && c != '\n' && c != '\r'

/-- Whether a text is the absolute address of a resource. -/
def valid (s : String) : Bool :=
  match splitScheme? (clean s) with
  | some (scheme, rest) => isRest (kindOf scheme) rest
  | none => false

end Locator

end ChainReplica
