import ChainReplica.Text.Numeral

/-!
# JSON data

A `Value` is a JSON document as data: what a venue writes about its snapshot,
and what identifies a pool in an announcement. Numbers are integers or 64-bit
floating point numbers, given by their bits.

`Value.render` writes a document in its compact form, without white space. The
members of an object are written in the order they stand in; `Value.record`
keeps the order of its fields, `Value.object` made by `sortedMembers` has its
keys in increasing order.
-/

namespace ChainReplica

namespace Json

inductive Number where
  | natural (n : Nat)
  /-- The number `-(n + 1)`. -/
  | negative (n : Nat)
  /-- A finite floating point number by its bits. -/
  | binary (bits : UInt64)
  deriving DecidableEq, Repr

inductive Value where
  | null
  | bool (b : Bool)
  | number (n : Number)
  | string (s : String)
  | array (items : List Value)
  | object (members : List (String × Value))
  deriving Repr

namespace Value

def count (n : Nat) : Value := .number (.natural n)

/-- An object with the fields in the order given. -/
def record (fields : List (String × Value)) : Value := .object fields

end Value

/-- Puts a member in its place by key, instead of one that has the key. -/
def insertMember (key : String) (v : Value) : List (String × Value) → List (String × Value)
  | [] => [(key, v)]
  | (k, w) :: rest =>
    if key < k then (key, v) :: (k, w) :: rest
    else if key = k then (key, v) :: rest
    else (k, w) :: insertMember key v rest

/-- Members by increasing key; of two with one key the later counts. -/
def sortedMembers (members : List (String × Value)) : List (String × Value) :=
  members.foldl (fun acc m => insertMember m.1 m.2 acc) []

end Json

end ChainReplica
