import Shortcode.Digest.Words

/-!
# SHA-3

The digests are a sponge over the permutation Keccak-f[1600], whose state is a
square of 25 lanes of 64 bits.  A digest absorbs the message in blocks of its rate and gives
the first bytes of the state.
-/

namespace Shortcode.Digest.SHA3

/-- A lane of the state. -/
abbrev Lane : Type := BitVec 64

/-- The square of lanes; the lane in column `x` and row `y` has the number `x + 5 * y`. -/
abbrev State : Type := Vector Lane 25

/-- The lane in a column and a row, both taken modulo five. -/
def lane (s : State) (x y : Nat) : Lane := s.get ⟨x % 5 + 5 * (y % 5), by omega⟩

/-- The state with each lane given by its column and its row. -/
def build (f : Nat → Nat → Lane) : State := Vector.ofFn fun i => f (i.val % 5) (i.val / 5)

/-- The amounts by which the lanes are rotated. -/
def offsets : List Nat :=
  [0, 1, 62, 28, 27, 36, 44, 6, 55, 20, 3, 10, 43, 25, 39, 41, 45, 15, 21, 8, 18, 2, 61, 56, 14]

/-- The constants of the rounds. -/
def roundConstants : List Lane :=
  [0x0000000000000001, 0x0000000000008082, 0x800000000000808A, 0x8000000080008000,
   0x000000000000808B, 0x0000000080000001, 0x8000000080008081, 0x8000000000008009,
   0x000000000000008A, 0x0000000000000088, 0x0000000080008009, 0x000000008000000A,
   0x000000008000808B, 0x800000000000008B, 0x8000000000008089, 0x8000000000008003,
   0x8000000000008002, 0x8000000000000080, 0x000000000000800A, 0x800000008000000A,
   0x8000000080008081, 0x8000000000008080, 0x0000000080000001, 0x8000000080008008]

/-- The sum of the lanes of a column. -/
def column (s : State) (x : Nat) : Lane :=
  lane s x 0 ^^^ lane s x 1 ^^^ lane s x 2 ^^^ lane s x 3 ^^^ lane s x 4

/-- Add to each lane the sums of two columns beside it. -/
def theta (s : State) : State :=
  let columns := Vector.ofFn fun x : Fin 5 => column s x.val
  let sum (x : Nat) : Lane := columns.get ⟨x % 5, by omega⟩
  build fun x y => lane s x y ^^^ sum (x + 4) ^^^ (sum (x + 1)).rotateLeft 1

/-- Rotate each lane and move it to its new place. -/
def rhoPi (s : State) : State :=
  build fun x y =>
    let fromX := x + 3 * y
    (lane s fromX x).rotateLeft (offsets.getD (fromX % 5 + 5 * x) 0)

/-- Combine each lane with the two behind it in its row. -/
def chi (s : State) : State :=
  build fun x y => lane s x y ^^^ (~~~lane s (x + 1) y &&& lane s (x + 2) y)

/-- A round with its constant. -/
def round (s : State) (constant : Lane) : State :=
  let s := chi (rhoPi (theta s))
  s.set 0 (s[0] ^^^ constant)

/-- The permutation of states. -/
def permute (s : State) : State := roundConstants.foldl round s

/-- Add a block to the front of the state and permute. -/
def absorb (s : State) (block : List UInt8) : State :=
  let lanes := ((blocks 8 block).map fun b => BitVec.ofNat 64 (numberOfLowFirst b)).toArray
  permute (Vector.ofFn fun i : Fin 25 => s[i] ^^^ lanes.getD i.val 0)

/-- The message with the padding of SHA-3, filling blocks of `rate` bytes. -/
def filled (rate : Nat) (message : List UInt8) : List UInt8 :=
  let room := rate - message.length % rate
  if room = 1 then message ++ [0x86]
  else message ++ 0x06 :: List.replicate (room - 2) 0 ++ [0x80]

/-- The digest of `length` bytes, whose rate is what twice that length leaves of the state. -/
def digest (length : Nat) (message : List UInt8) : List UInt8 :=
  let rate := 200 - 2 * length
  let s := (blocks rate (filled rate message)).foldl absorb (Vector.replicate 25 0)
  (s.toList.flatMap fun lane => bytesLowFirst 8 lane.toNat).take length

end Shortcode.Digest.SHA3
