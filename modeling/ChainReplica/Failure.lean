/-!
# Failures

Why an operation failed: the boundary it failed at, a message, and the text of
the underlying reason if there is one.
-/

namespace ChainReplica

/-- The boundary at which an operation failed. -/
inductive Boundary where
  /-- Settings from the environment. -/
  | configuration
  /-- Requests to a node. -/
  | node
  /-- Reading a log. -/
  | decoding
  /-- Building a snapshot from scratch. -/
  | generation
  /-- Folding a log onto a snapshot. -/
  | processing
  /-- The order of a batch. -/
  | ordering
  /-- The shared cache. -/
  | cache
  /-- The written form of a record. -/
  | serialization
  /-- Registration with the delivery of logs. -/
  | delivery
  deriving DecidableEq, Repr

def Boundary.heading : Boundary → String
  | .configuration => "Configuration error: "
  | .node => "RPC error: "
  | .decoding => "Decoding error: "
  | .generation => "State generation error: "
  | .processing => "Log processing error: "
  | .ordering => "Log ordering error: "
  | .cache => "Cache error: "
  | .serialization => "Serialization error: "
  | .delivery => "Delivery error: "

structure Failure where
  boundary : Boundary
  message : String
  reason : Option String
  deriving DecidableEq, Repr

namespace Failure

/-- A failure with an underlying reason, if there is one. A rejected order has none. -/
def because (boundary : Boundary) (message : String) (reason : Option String) : Failure :=
  ⟨boundary, message, if boundary = .ordering then none else reason⟩

def plain (boundary : Boundary) (message : String) : Failure := ⟨boundary, message, none⟩

def text (f : Failure) : String := f.boundary.heading ++ f.message

end Failure

end ChainReplica
