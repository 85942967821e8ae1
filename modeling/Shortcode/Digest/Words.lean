import Shortcode.Text.Basic

/-!
# Bytes, words and blocks

What the digests share: numbers as sequences of bytes in either order, the cut of a message
into blocks of equal size, the padding that ends with the length of the message, and the
hexadecimal form of bytes.
-/

namespace Shortcode.Digest

/-- The number whose bytes are given, the most significant one first. -/
def numberOfHighFirst (bytes : List UInt8) : Nat :=
  bytes.foldl (fun n b => n * 256 + b.toNat) 0

/-- The number whose bytes are given, the least significant one first. -/
def numberOfLowFirst (bytes : List UInt8) : Nat :=
  bytes.foldr (fun b n => n * 256 + b.toNat) 0

/-- The `count` least significant bytes of a number, the least significant one first. -/
def bytesLowFirst : Nat → Nat → List UInt8
  | 0, _ => []
  | count + 1, n => UInt8.ofNat n :: bytesLowFirst count (n / 256)

/-- The `count` least significant bytes of a number, the most significant one first. -/
def bytesHighFirst (count n : Nat) : List UInt8 := (bytesLowFirst count n).reverse

/-- The first `count` blocks of `size` members each. -/
def takeBlocks {α : Type} (size : Nat) : Nat → List α → List (List α)
  | 0, _ => []
  | count + 1, members => members.take size :: takeBlocks size count (members.drop size)

/-- The full blocks of `size` members each. -/
def blocks {α : Type} (size : Nat) (members : List α) : List (List α) :=
  takeBlocks size (members.length / size) members

/-- The message followed by a set bit, zeros and its length in bits, written by `number` in
`width` bytes, so that blocks of `size` bytes are filled. -/
def padded (size width : Nat) (number : Nat → Nat → List UInt8) (message : List UInt8) :
    List UInt8 :=
  let used := (message.length + 1 + width) % size
  message ++ 0x80 :: List.replicate ((size - used) % size) 0
    ++ number width (8 * message.length)

/-- The two hexadecimal digits of each byte. -/
def hex (bytes : List UInt8) : Text :=
  bytes.flatMap fun b => [Nat.digitChar (b.toNat / 16), Nat.digitChar (b.toNat % 16)]

end Shortcode.Digest
