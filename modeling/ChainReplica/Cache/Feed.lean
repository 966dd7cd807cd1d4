/-!
# Messages to receivers

A published message goes to every receiver that is there at the moment, and to
nobody if there is none. A receiver that does not ask for its messages keeps
only the newest of them, and is told that it has missed some: when it asks next,
it gets nothing, and what it has kept only when it asks again.
-/

namespace ChainReplica

structure Message where
  topic : String
  payload : String
  deriving DecidableEq, Repr

/-! ## One receiver -/

/-- A receiver with the messages it has not asked for yet, oldest first. -/
structure Receiver where
  name : String
  waiting : List Message
  /-- Whether it has missed messages since it asked last. -/
  behind : Bool
  deriving DecidableEq, Repr

namespace Receiver

def new (name : String) : Receiver := ⟨name, [], false⟩

def capacity : Nat := 256

/-- Puts a message behind those that wait. The oldest one gives way if there are
too many. -/
def accept (r : Receiver) (m : Message) : Receiver :=
  if r.waiting.length < capacity then { r with waiting := r.waiting ++ [m] }
  else { r with waiting := r.waiting.drop 1 ++ [m], behind := true }

def ask (r : Receiver) : List Message × Receiver :=
  if r.behind then ([], { r with behind := false }) else (r.waiting, { r with waiting := [] })

end Receiver

/-! ## All receivers -/

/-- The receivers, at most one of each name. -/
structure Feed where
  receivers : List Receiver
  deriving DecidableEq, Repr

namespace Feed

def empty : Feed := ⟨[]⟩

/-- A receiver that gets the messages from now on, instead of one of the name. -/
def subscribe (f : Feed) (name : String) : Feed :=
  ⟨f.receivers.filter (fun r => r.name != name) ++ [.new name]⟩

def publish (f : Feed) (m : Message) : Feed := ⟨f.receivers.map fun r => r.accept m⟩

/-- Takes the messages that a receiver is given when it asks. -/
def receive (f : Feed) (name : String) : List Message × Feed :=
  (((f.receivers.find? fun r => r.name == name).map fun r => r.ask.1).getD [],
    ⟨f.receivers.map fun r => if r.name = name then r.ask.2 else r⟩)

end Feed

end ChainReplica
