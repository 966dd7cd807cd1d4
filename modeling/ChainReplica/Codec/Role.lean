import ChainReplica.Codec
import ChainReplica.Settings

/-!
# The written form of roles

A role is written as its name. It is read from its name, or from an object
whose only key is the name and whose value is null.
-/

namespace ChainReplica

namespace Role

/-- A name, alone or as a key. -/
def codec : Codec Role where
  write r := .string r.text
  read?
    | .string s => s.bind ofName?
    | .object [(key, .null)] => key.bind ofName?
    | _ => none

end Role

end ChainReplica
