import Shortcode.Digest.Words

/-!
# BLAKE2

The digests without a key.  There are two word sizes, 32 bits for BLAKE2s and
64 bits for BLAKE2b; a `Family` collects what sets them apart.
-/

namespace Shortcode.Digest.BLAKE2

/-- What sets the digests with words of `w` bits apart. -/
structure Family (w : Nat) where
  /-- The bytes of a word. -/
  bytes : Nat
  /-- How often the words of a block are mixed in. -/
  rounds : Nat
  /-- The words that the state and the working words start from. -/
  initial : Vector (BitVec w) 8
  /-- The four rotations of a mixing. -/
  rotations : Nat × Nat × Nat × Nat

/-- The orders in which the rounds take the words of a block; they repeat. -/
def orders : List (List (Fin 16)) :=
  [[0, 1, 2, 3, 4, 5, 6, 7, 8, 9, 10, 11, 12, 13, 14, 15],
   [14, 10, 4, 8, 9, 15, 13, 6, 1, 12, 0, 2, 11, 7, 5, 3],
   [11, 8, 12, 0, 5, 2, 15, 13, 10, 14, 3, 6, 7, 1, 9, 4],
   [7, 9, 3, 1, 13, 12, 11, 14, 2, 6, 5, 10, 4, 0, 15, 8],
   [9, 0, 5, 7, 2, 4, 10, 15, 14, 1, 11, 12, 6, 8, 3, 13],
   [2, 12, 6, 10, 0, 11, 8, 3, 4, 13, 7, 5, 15, 14, 1, 9],
   [12, 5, 1, 15, 14, 13, 4, 10, 0, 7, 6, 3, 9, 2, 8, 11],
   [13, 11, 7, 14, 12, 1, 3, 9, 5, 0, 15, 4, 8, 6, 2, 10],
   [6, 15, 14, 9, 11, 3, 0, 8, 12, 2, 13, 7, 1, 4, 10, 5],
   [10, 2, 8, 4, 7, 6, 1, 5, 15, 11, 9, 14, 3, 12, 13, 0]]

/-- The working words that the eight mixings of a round take. -/
def places : List (Fin 16 × Fin 16 × Fin 16 × Fin 16) :=
  [(0, 4, 8, 12), (1, 5, 9, 13), (2, 6, 10, 14), (3, 7, 11, 15),
   (0, 5, 10, 15), (1, 6, 11, 12), (2, 7, 8, 13), (3, 4, 9, 14)]

variable {w : Nat}

/-- Mix two words of a block into four working words. -/
def mix (family : Family w) (v : Vector (BitVec w) 16) (x y : BitVec w)
    (at4 : Fin 16 × Fin 16 × Fin 16 × Fin 16) : Vector (BitVec w) 16 :=
  let (a, b, c, d) := at4
  let (r0, r1, r2, r3) := family.rotations
  let v := v.set a (v[a] + v[b] + x)
  let v := v.set d ((v[d] ^^^ v[a]).rotateRight r0)
  let v := v.set c (v[c] + v[d])
  let v := v.set b ((v[b] ^^^ v[c]).rotateRight r1)
  let v := v.set a (v[a] + v[b] + y)
  let v := v.set d ((v[d] ^^^ v[a]).rotateRight r2)
  let v := v.set c (v[c] + v[d])
  v.set b ((v[b] ^^^ v[c]).rotateRight r3)

/-- A round that takes the words of a block in the given order. -/
def round (family : Family w) (message : Vector (BitVec w) 16) (v : Vector (BitVec w) 16)
    (order : List (Fin 16)) : Vector (BitVec w) 16 :=
  ((blocks 2 order).zip places).foldl
    (fun v (pair, at4) =>
      match pair with
      | [i, j] => mix family v message[i] message[j] at4
      | _ => v)
    v

/-- Mix a block into the state; `count` bytes of the message have been seen with it, and
`last` says whether it is the last block. -/
def compress (family : Family w) (h : Vector (BitVec w) 8) (block : List UInt8) (count : Nat)
    (last : Bool) : Vector (BitVec w) 8 :=
  let words :=
    ((blocks family.bytes block).map fun b => BitVec.ofNat w (numberOfLowFirst b)).toArray
  let message := Vector.ofFn fun i : Fin 16 => words.getD i.val 0
  let v : Vector (BitVec w) 16 := h ++ family.initial
  let v := v.set 12 (v[12] ^^^ BitVec.ofNat w count)
  let v := v.set 13 (v[13] ^^^ BitVec.ofNat w (count >>> w))
  let v := if last then v.set 14 (~~~v[14]) else v
  let rounds := (List.range family.rounds).map fun i => orders.getD (i % 10) []
  let v := rounds.foldl (round family message) v
  Vector.ofFn fun i : Fin 8 => h[i] ^^^ v[i.val] ^^^ v[i.val + 8]

/-- Mix blocks in, `seen` bytes of the message standing before them and `rest` bytes of it
being left. -/
def compressAll (family : Family w) (h : Vector (BitVec w) 8) (seen rest : Nat) :
    List (List UInt8) → Vector (BitVec w) 8
  | [] => h
  | [block] => compress family h block (seen + rest) true
  | block :: others =>
    let seen := seen + block.length
    compressAll family (compress family h block seen false) seen (rest - block.length) others

/-- The digest of a message, as long as the state. -/
def digest (family : Family w) (message : List UInt8) : List UInt8 :=
  let size := 16 * family.bytes
  let length := 8 * family.bytes
  let h := family.initial.set 0 (family.initial[0] ^^^ BitVec.ofNat w (0x01010000 + length))
  let fill := if message.isEmpty then size else (size - message.length % size) % size
  let filled := message ++ List.replicate fill 0
  let h := compressAll family h 0 message.length (blocks size filled)
  h.toList.flatMap fun word => bytesLowFirst family.bytes word.toNat

/-- The family with words of 32 bits. -/
def family32 : Family 32 where
  bytes := 4
  rounds := 10
  initial :=
    #v[0x6A09E667, 0xBB67AE85, 0x3C6EF372, 0xA54FF53A,
      0x510E527F, 0x9B05688C, 0x1F83D9AB, 0x5BE0CD19]
  rotations := (16, 12, 8, 7)

/-- The family with words of 64 bits. -/
def family64 : Family 64 where
  bytes := 8
  rounds := 12
  initial :=
    #v[0x6A09E667F3BCC908, 0xBB67AE8584CAA73B,
      0x3C6EF372FE94F82B, 0xA54FF53A5F1D36F1,
      0x510E527FADE682D1, 0x9B05688C2B3E6C1F,
      0x1F83D9ABFB41BD6B, 0x5BE0CD19137E2179]
  rotations := (32, 24, 16, 63)

/-- BLAKE2s with 32 bytes. -/
def blake2s : List UInt8 → List UInt8 := digest family32

/-- BLAKE2b with 64 bytes. -/
def blake2b : List UInt8 → List UInt8 := digest family64

end Shortcode.Digest.BLAKE2
