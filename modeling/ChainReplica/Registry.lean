import ChainReplica.Chain.Basic
import ChainReplica.Subscription

/-!
# Registrations for logs

Which subscriber wants the logs of which contracts, from which block on. Later
registrations of a subscriber count instead of earlier ones, which stay listed.
-/

namespace ChainReplica

structure Registration where
  subscription : Subscription
  addresses : List Address
  fromBlock : Nat
  deriving DecidableEq

/-- Registrations in the order they were made. -/
abbrev Registry := List Registration

def Registry.find? (r : Registry) (id : Subscription) : Option Registration :=
  (List.reverse r).find? fun x => x.subscription == id

end ChainReplica
