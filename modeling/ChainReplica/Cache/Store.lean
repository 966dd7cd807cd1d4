import ChainReplica.Subscription
import ChainReplica.Text.Blank

/-!
# The store of the shared cache

Texts by group and name, each with the time at which it expires, if it does. An
expired text is as good as missing; reading one also removes it, which no later
answer shows. Times are milliseconds of a clock that never goes back, and that counts
its seconds in a signed word of 64 bits: a text that would expire later than such a
clock can tell is not stored.

Every group has one name set aside, under which the newest block that the
masters of the group have processed is kept as a decimal number.
-/

namespace ChainReplica

structure Entry where
  value : String
  expires : Option Nat
  deriving DecidableEq, Repr

/-- Whether the text is still there at a time. -/
def Entry.live (e : Entry) (now : Nat) : Bool := e.expires.all (now < ·)

/-- Stored texts by group and name, at most one each. -/
structure Store where
  entries : List (Subscription × Entry)
  deriving DecidableEq, Repr

namespace Store

def empty : Store := ⟨[]⟩

/-- What is stored under a key, expired or not. -/
def find? (s : Store) (key : Subscription) : Option Entry :=
  (s.entries.find? fun e => e.1 == key).map (·.2)

def erase (s : Store) (key : Subscription) : Store := ⟨s.entries.filter fun e => e.1 != key⟩

/-- The first time that the clock cannot tell. -/
def horizon : Nat := 0x8000000000000000 * 1000

/-- Whether the clock can tell the time at which a text expires, if it does. -/
def fits (now : Nat) (ttl : Option Nat) : Bool := ttl.all (now + · < horizon)

/-- Stores a text, for a span of time or for good. The call breaks off, with nothing
stored, if the clock cannot tell when the span is over. -/
def set (s : Store) (now : Nat) (key : Subscription) (value : String) (ttl : Option Nat) : Store :=
  if fits now ttl then ⟨(key, ⟨value, ttl.map (now + ·)⟩) :: (s.erase key).entries⟩ else s

def value? (s : Store) (now : Nat) (key : Subscription) : Option String :=
  ((s.find? key).filter (·.live now)).map (·.value)

/-- Reads a text, and removes it if it has expired. -/
def get (s : Store) (now : Nat) (key : Subscription) : Option String × Store :=
  match s.find? key with
  | none => (none, s)
  | some e => if e.live now then (some e.value, s) else (none, s.erase key)

def size (s : Store) (now : Nat) : Nat := (s.entries.filter fun e => e.2.live now).length

def isEmpty (s : Store) (now : Nat) : Bool := s.size now == 0

/-! ## The newest processed block of a group -/

/-- The name set aside for it. -/
def latestName : String := "latest_block"

def latestKey (group : String) : Subscription := ⟨group, latestName⟩

def latestText (block : Nat) : String := Numeral.decimal block

/-- Reads its text, with white space around it. -/
def readLatest? (text : String) : Option Nat := Numeral.readCount? (trimBlank text)

end Store

end ChainReplica
