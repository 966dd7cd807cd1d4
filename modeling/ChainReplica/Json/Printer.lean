import ChainReplica.Json.Value
import ChainReplica.Json.Binary

/-!
# Writing JSON

The compact form of a document. In a string, the quote, the backslash and the
characters below `U+0020` are escaped, with the short form where there is one;
every other character stands for itself.
-/

namespace ChainReplica

namespace Json

def codeEscape (c : Char) : List Char :=
  ['\\', 'u', '0', '0', Nat.digitChar (c.toNat / 16), Nat.digitChar (c.toNat % 16)]

def escape (c : Char) : List Char :=
  if c = '"' then ['\\', '"']
  else if c = '\\' then ['\\', '\\']
  else if c.toNat = 8 then ['\\', 'b']
  else if c.toNat = 9 then ['\\', 't']
  else if c.toNat = 10 then ['\\', 'n']
  else if c.toNat = 12 then ['\\', 'f']
  else if c.toNat = 13 then ['\\', 'r']
  else if c.toNat < 32 then codeEscape c
  else [c]

def quote (s : String) : List Char := '"' :: (s.toList.flatMap escape ++ ['"'])

def Number.render : Number → List Char
  | .natural n => Numeral.text 10 n
  | .negative n => '-' :: Numeral.text 10 (n + 1)
  | .binary bits => Binary.render bits

namespace Value

mutual

def render : Value → List Char
  | .null => ['n', 'u', 'l', 'l']
  | .bool true => ['t', 'r', 'u', 'e']
  | .bool false => ['f', 'a', 'l', 's', 'e']
  | .number n => n.render
  | .string s => quote s
  | .array items => '[' :: (renderItems items ++ [']'])
  | .object members => '\x7b' :: (renderMembers members ++ ['\x7d'])

def renderItems : List Value → List Char
  | [] => []
  | [v] => render v
  | v :: w :: rest => render v ++ ',' :: renderItems (w :: rest)

def renderMembers : List (String × Value) → List Char
  | [] => []
  | [(k, v)] => quote k ++ ':' :: render v
  | (k, v) :: m :: rest => quote k ++ ':' :: (render v ++ ',' :: renderMembers (m :: rest))

end

def text (v : Value) : String := String.ofList v.render

end Value

end Json

end ChainReplica
