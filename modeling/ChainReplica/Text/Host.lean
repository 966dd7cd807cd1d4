import ChainReplica.Text.Host.Name
import ChainReplica.Text.Host.Numeric

/-!
# Hosts

A host is an address of version six in brackets, an address of version four, or
a name. On the web each character of it may be written by a percent sign and two
digits for each of its bytes. Elsewhere a name has no meaning, and may hold
anything but a few signs.
-/

namespace ChainReplica

namespace Host

/-- Whether a text in brackets is an address of version six. -/
def isBracketed (host : List Char) : Bool :=
  host.head? == some '[' && host.getLast? == some ']' && 2 ≤ host.length
    && isVersion6 (host.drop 1).dropLast

/-! ## On the web -/

/-- The bytes of a text, where a percent sign and two digits stand for a byte. -/
def bytes : List Char → List UInt8
  | '%' :: a :: b :: rest => match Numeral.read? 16 [a, b] with
    | some n => UInt8.ofNat n :: bytes rest
    | none => '%'.toUInt8 :: bytes (a :: b :: rest)
  | c :: rest => String.utf8EncodeChar c ++ bytes rest
  | [] => []

/-- The text of a host with all of its characters as they are. -/
def unescape? (host : List Char) : Option (List Char) :=
  (String.fromUTF8? (ByteArray.mk (bytes host).toArray)).map String.toList

/-- Whether a text is the name or the address of a host of the web. -/
def isName (text : List Char) : Bool :=
  match settled? text with
  | none => false
  | some name => !name.isEmpty && (labels? name).isSome && (!isNumeric name || isVersion4 name)

def isWeb (host : List Char) : Bool :=
  if host.head? = some '[' then isBracketed host else (unescape? host).any isName

/-! ## Elsewhere -/

/-- What no host may hold. -/
def forbidden : List Char :=
  ['\x00', '\t', '\n', '\r', ' ', '#', '/', ':', '<', '>', '?', '@', '[', '\\', ']', '^', '|']

/-- Whether a text is a host of another scheme, where it has no meaning. -/
def isOpaque (host : List Char) : Bool :=
  if host.head? = some '[' then isBracketed host
  else !host.any fun c => forbidden.contains c

end Host

end ChainReplica
