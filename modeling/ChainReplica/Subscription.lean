import ChainReplica.Codec

/-!
# Subscriptions

What a subscriber is known as: a group, and a name within the group. The shared
cache keeps its snapshots under these two, and jobs that work for it carry its
text in their keys.
-/

namespace ChainReplica

/-- A name within a group. -/
structure Subscription where
  group : String
  name : String
  deriving DecidableEq, Repr

namespace Subscription

/-- Group and name with a slash between them. -/
def text (id : Subscription) : String := id.group ++ "/" ++ id.name

def codec : Codec Subscription where
  write id := .record [("group_key", .string id.group), ("name", .string id.name)]
  read? l := (l.field₂? ("group_key", Json.Literal.text?) ("name", Json.Literal.text?)).map
    fun p => ⟨p.1, p.2⟩

end Subscription

end ChainReplica
