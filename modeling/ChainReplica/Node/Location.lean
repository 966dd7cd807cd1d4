import ChainReplica.Failure
import ChainReplica.Text.Locator

/-!
# Where a node is

A node is reached by the address of a server. Nothing is sent before the first
request, so only the form of the address can be wrong here.
-/

namespace ChainReplica

/-- Refuses what is no address. One that at least begins like an address of the
web is quoted alone; otherwise the settings that name it are. -/
def checkLocation (url : String) : Except Failure Unit :=
  if Locator.valid url then .ok ()
  else
    let message := if url.startsWith "http" then "Failed to parse RPC URL: '" ++ url ++ "'"
      else "Invalid RPC URL: '" ++ url ++ "'. Set RPC_URL or ALCHEMY_API_KEY"
    .error (.because .node message (some "not the address of a server"))

end ChainReplica
