import ChainReplica.BlockMap
import ChainReplica.Text.Hex
import ChainReplica.Text.Keccak

/-!
# Blocks, headers and logs

What the chain delivers: headers that name their parent by its hash, and the
logs that contracts emit. Numbers of blocks and positions of logs are natural
numbers.
-/

namespace ChainReplica

/-- An account on the chain. -/
abbrev Address := BitVec 160

/-- A 32-byte hash: of a block, or the topic of a log. -/
abbrev Hash := BitVec 256

/-- A log of a contract. A log that is not in a block yet has no block number. -/
structure Log where
  address : Address
  topics : List Hash
  data : List UInt8
  block : Option Nat
  index : Option Nat

structure Header where
  number : Nat
  hash : Hash
  parent : Hash
  timestamp : Nat
  deriving DecidableEq

/-- The headers of a batch by block number. -/
abbrev Headers := BlockMap Header

/-- The headers by their own numbers; a later one replaces an earlier one. -/
def Headers.ofList (headers : List Header) : Headers :=
  BlockMap.ofList (headers.map fun h => (h.number, h))

/-- Block number and index of a log in a block; a log without index stands first. -/
def Log.position? (log : Log) : Option (Nat × Nat) :=
  log.block.map fun block => (block, log.index.getD 0)

namespace Address

def digits (a : Address) : List Char := Hex.fixed 40 a.toNat

def text (a : Address) : String := String.ofList ('0' :: 'x' :: digits a)

/-- The address with its checksum: a letter is a capital where the hash of the
lower-case digits has a digit of eight or more at the same place. -/
def checksumText (a : Address) : String :=
  let lower := digits a
  let hash := (Keccak.hash (String.ofList lower).toUTF8.toList).flatMap fun b =>
    [b.toNat / 16, b.toNat % 16]
  String.ofList ('0' :: 'x' :: List.zipWith (fun c h => if 8 ≤ h then c.toUpper else c) lower hash)

/-- Reads 40 digits in either case, with or without the marker. -/
def read? (s : String) : Option Address := (Hex.sized? 40 s).map (BitVec.ofNat 160)

end Address

namespace Hash

def text (h : Hash) : String := String.ofList ('0' :: 'x' :: Hex.fixed 64 h.toNat)

def read? (s : String) : Option Hash := (Hex.sized? 64 s).map (BitVec.ofNat 256)

/-- The hash that the bytes make up, first byte most significant. -/
def ofBytes (bytes : List UInt8) : Hash :=
  BitVec.ofNat 256 (Numeral.value 256 (bytes.map (·.toNat)))

end Hash

end ChainReplica
