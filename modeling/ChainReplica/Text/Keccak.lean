/-!
# Keccak-256

The sponge hash with 1088 bits of rate and plain one-zero padding, as Ethereum
uses it for addresses and event signatures. The state is 25 lanes of 64 bits,
the lane of column `x` and row `y` at index `x + 5 * y`.
-/

namespace ChainReplica

namespace Keccak

abbrev Lanes := Array UInt64

def roundConstants : List UInt64 :=
  [0x0000000000000001, 0x0000000000008082, 0x800000000000808A, 0x8000000080008000,
   0x000000000000808B, 0x0000000080000001, 0x8000000080008081, 0x8000000000008009,
   0x000000000000008A, 0x0000000000000088, 0x0000000080008009, 0x000000008000000A,
   0x000000008000808B, 0x800000000000008B, 0x8000000000008089, 0x8000000000008003,
   0x8000000000008002, 0x8000000000000080, 0x000000000000800A, 0x800000008000000A,
   0x8000000080008081, 0x8000000000008080, 0x0000000080000001, 0x8000000080008008]

/-- How far the lane at each index is rotated. -/
def rotations : Array Nat :=
  #[0, 1, 62, 28, 27, 36, 44, 6, 55, 20, 3, 10, 43, 25, 39, 41, 45, 15, 21, 8, 18, 2, 61, 56, 14]

/-- Rotation to the left by less than 64 places. -/
def rotate (lane : UInt64) (places : Nat) : UInt64 :=
  if places = 0 then lane
  else (lane <<< UInt64.ofNat places) ||| (lane >>> UInt64.ofNat (64 - places))

/-- The lane of a column and a row, both counted modulo five. -/
def lane (s : Lanes) (x y : Nat) : UInt64 := s.getD (x % 5 + 5 * (y % 5)) 0

/-- A state from a lane per column and row. -/
def build (f : Nat → Nat → UInt64) : Lanes :=
  Array.ofFn fun i : Fin 25 => f (i.val % 5) (i.val / 5)

/-- Adds to each lane the parities of two neighbouring columns. -/
def mixColumns (s : Lanes) : Lanes :=
  let parity := Array.ofFn fun x : Fin 5 =>
    lane s x 0 ^^^ lane s x 1 ^^^ lane s x 2 ^^^ lane s x 3 ^^^ lane s x 4
  build fun x y =>
    lane s x y ^^^ parity.getD ((x + 4) % 5) 0 ^^^ rotate (parity.getD ((x + 1) % 5) 0) 1

/-- Rotates every lane and moves it to its new place. -/
def scatter (s : Lanes) : Lanes :=
  build fun x y =>
    let source := (x + 3 * y) % 5
    rotate (lane s source x) (rotations.getD (source + 5 * x) 0)

/-- Combines every lane with the next two of its row. -/
def combineRows (s : Lanes) : Lanes :=
  build fun x y => lane s x y ^^^ ((lane s (x + 1) y ^^^ 0xFFFFFFFFFFFFFFFF) &&& lane s (x + 2) y)

def round (s : Lanes) (constant : UInt64) : Lanes :=
  (combineRows (scatter (mixColumns s))).modify 0 (· ^^^ constant)

def permute (s : Lanes) : Lanes := roundConstants.foldl round s

def rate : Nat := 136

/-- The lane that eight bytes denote, least significant first. -/
def laneOf (bytes : List UInt8) : UInt64 :=
  bytes.foldr (fun b acc => (acc <<< 8) ||| b.toUInt64) 0

/-- Fills a message up to a multiple of the rate: a one bit, zeros, a one bit. -/
def pad (message : List UInt8) : List UInt8 :=
  let missing := rate - message.length % rate
  if missing = 1 then message ++ [0x81]
  else message ++ [0x01] ++ List.replicate (missing - 2) 0 ++ [0x80]

/-- Adds `blocks` blocks of the rate, with a permutation after each. -/
def absorb (s : Lanes) (message : List UInt8) : Nat → Lanes
  | 0 => s
  | blocks + 1 =>
    let added := build fun x y =>
      let index := x + 5 * y
      if index < rate / 8 then lane s x y ^^^ laneOf ((message.drop (8 * index)).take 8)
      else lane s x y
    absorb (permute added) (message.drop rate) blocks

def hash (message : List UInt8) : List UInt8 :=
  let padded := pad message
  let s := absorb (Array.replicate 25 0) padded (padded.length / rate)
  (List.range 32).map fun i =>
    ((s.getD (i / 8) 0) >>> UInt64.ofNat (8 * (i % 8))).toUInt8

end Keccak

end ChainReplica
