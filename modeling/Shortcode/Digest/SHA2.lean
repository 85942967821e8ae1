import Shortcode.Digest.Words

/-!
# SHA-2

There are two word sizes, 32 and 64 bits; they share their
steps and differ in the amounts of rotation, the number of steps and the constants, which a
`Family` collects.  The shorter digests of a family start from other words and are cut off.
-/

namespace Shortcode.Digest.SHA2

/-- Two rotations, followed by a rotation or a shift. -/
abbrev Amounts : Type := Nat × Nat × Nat

/-- What sets the digests with words of `w` bits apart. -/
structure Family (w : Nat) where
  /-- The bytes of a word. -/
  bytes : Nat
  /-- The constants, one for each step. -/
  constants : List (BitVec w)
  /-- The rotations of the first working word in a step. -/
  sum0 : Amounts
  /-- The rotations of the fifth working word in a step. -/
  sum1 : Amounts
  /-- The rotations and the shift of the earlier word in the schedule. -/
  sigma0 : Amounts
  /-- The rotations and the shift of the later word in the schedule. -/
  sigma1 : Amounts

/-- The eight words that a block is mixed into. -/
structure State (w : Nat) where
  a : BitVec w
  b : BitVec w
  c : BitVec w
  d : BitVec w
  e : BitVec w
  f : BitVec w
  g : BitVec w
  h : BitVec w

variable {w : Nat}

/-- The words of a state in order. -/
def State.words (s : State w) : List (BitVec w) := [s.a, s.b, s.c, s.d, s.e, s.f, s.g, s.h]

/-- The sum of three rotations of a word. -/
def rotations (amounts : Amounts) (x : BitVec w) : BitVec w :=
  x.rotateRight amounts.1 ^^^ x.rotateRight amounts.2.1 ^^^ x.rotateRight amounts.2.2

/-- The sum of two rotations of a word and a shift of it. -/
def rotationsShift (amounts : Amounts) (x : BitVec w) : BitVec w :=
  x.rotateRight amounts.1 ^^^ x.rotateRight amounts.2.1 ^^^ (x >>> amounts.2.2)

/-- The words of a block, continued to one for each step. -/
def schedule (family : Family w) (block : List UInt8) : Array (BitVec w) :=
  let first :=
    ((blocks family.bytes block).map fun b => BitVec.ofNat w (numberOfHighFirst b)).toArray
  (List.range (family.constants.length - 16)).foldl
    (fun words i =>
      words.push
        (rotationsShift family.sigma1 (words.getD (i + 14) 0) + words.getD (i + 9) 0
          + rotationsShift family.sigma0 (words.getD (i + 1) 0) + words.getD i 0))
    first

/-- A step with its constant and its word of the schedule. -/
def step (family : Family w) (s : State w) (constant word : BitVec w) : State w :=
  let choice := (s.e &&& s.f) ^^^ (~~~s.e &&& s.g)
  let majority := (s.a &&& s.b) ^^^ (s.a &&& s.c) ^^^ (s.b &&& s.c)
  let first := s.h + rotations family.sum1 s.e + choice + constant + word
  let second := rotations family.sum0 s.a + majority
  { a := first + second, b := s.a, c := s.b, d := s.c
    e := s.d + first, f := s.e, g := s.f, h := s.g }

/-- Mix a block into the state. -/
def compress (family : Family w) (s : State w) (block : List UInt8) : State w :=
  let words := (schedule family block).toList
  let t := (family.constants.zip words).foldl (fun t (k, word) => step family t k word) s
  { a := s.a + t.a, b := s.b + t.b, c := s.c + t.c, d := s.d + t.d
    e := s.e + t.e, f := s.f + t.f, g := s.g + t.g, h := s.h + t.h }

/-- The digest of a message, from the words `initial` and cut off after `length` bytes. -/
def digest (family : Family w) (initial : State w) (length : Nat) (message : List UInt8) :
    List UInt8 :=
  let size := 16 * family.bytes
  let filled := padded size (2 * family.bytes) bytesHighFirst message
  let s := (blocks size filled).foldl (compress family) initial
  (s.words.flatMap fun word => bytesHighFirst family.bytes word.toNat).take length

/-! ### Words of 32 bits -/

/-- The family with words of 32 bits. -/
def family32 : Family 32 where
  bytes := 4
  constants :=
    [0x428A2F98, 0x71374491, 0xB5C0FBCF, 0xE9B5DBA5, 0x3956C25B, 0x59F111F1, 0x923F82A4, 0xAB1C5ED5,
     0xD807AA98, 0x12835B01, 0x243185BE, 0x550C7DC3, 0x72BE5D74, 0x80DEB1FE, 0x9BDC06A7, 0xC19BF174,
     0xE49B69C1, 0xEFBE4786, 0x0FC19DC6, 0x240CA1CC, 0x2DE92C6F, 0x4A7484AA, 0x5CB0A9DC, 0x76F988DA,
     0x983E5152, 0xA831C66D, 0xB00327C8, 0xBF597FC7, 0xC6E00BF3, 0xD5A79147, 0x06CA6351, 0x14292967,
     0x27B70A85, 0x2E1B2138, 0x4D2C6DFC, 0x53380D13, 0x650A7354, 0x766A0ABB, 0x81C2C92E, 0x92722C85,
     0xA2BFE8A1, 0xA81A664B, 0xC24B8B70, 0xC76C51A3, 0xD192E819, 0xD6990624, 0xF40E3585, 0x106AA070,
     0x19A4C116, 0x1E376C08, 0x2748774C, 0x34B0BCB5, 0x391C0CB3, 0x4ED8AA4A, 0x5B9CCA4F, 0x682E6FF3,
     0x748F82EE, 0x78A5636F, 0x84C87814, 0x8CC70208, 0x90BEFFFA, 0xA4506CEB, 0xBEF9A3F7, 0xC67178F2]
  sum0 := (2, 13, 22)
  sum1 := (6, 11, 25)
  sigma0 := (7, 18, 3)
  sigma1 := (17, 19, 10)

/-- The words that SHA-256 starts from. -/
def initial256 : State 32 :=
  { a := 0x6A09E667, b := 0xBB67AE85, c := 0x3C6EF372, d := 0xA54FF53A
    e := 0x510E527F, f := 0x9B05688C, g := 0x1F83D9AB, h := 0x5BE0CD19 }

/-- The words that SHA-224 starts from. -/
def initial224 : State 32 :=
  { a := 0xC1059ED8, b := 0x367CD507, c := 0x3070DD17, d := 0xF70E5939
    e := 0xFFC00B31, f := 0x68581511, g := 0x64F98FA7, h := 0xBEFA4FA4 }

/-- SHA-256. -/
def sha256 : List UInt8 → List UInt8 := digest family32 initial256 32

/-- SHA-224. -/
def sha224 : List UInt8 → List UInt8 := digest family32 initial224 28

/-! ### Words of 64 bits -/

/-- The family with words of 64 bits. -/
def family64 : Family 64 where
  bytes := 8
  constants :=
    [0x428A2F98D728AE22, 0x7137449123EF65CD, 0xB5C0FBCFEC4D3B2F, 0xE9B5DBA58189DBBC,
     0x3956C25BF348B538, 0x59F111F1B605D019, 0x923F82A4AF194F9B, 0xAB1C5ED5DA6D8118,
     0xD807AA98A3030242, 0x12835B0145706FBE, 0x243185BE4EE4B28C, 0x550C7DC3D5FFB4E2,
     0x72BE5D74F27B896F, 0x80DEB1FE3B1696B1, 0x9BDC06A725C71235, 0xC19BF174CF692694,
     0xE49B69C19EF14AD2, 0xEFBE4786384F25E3, 0x0FC19DC68B8CD5B5, 0x240CA1CC77AC9C65,
     0x2DE92C6F592B0275, 0x4A7484AA6EA6E483, 0x5CB0A9DCBD41FBD4, 0x76F988DA831153B5,
     0x983E5152EE66DFAB, 0xA831C66D2DB43210, 0xB00327C898FB213F, 0xBF597FC7BEEF0EE4,
     0xC6E00BF33DA88FC2, 0xD5A79147930AA725, 0x06CA6351E003826F, 0x142929670A0E6E70,
     0x27B70A8546D22FFC, 0x2E1B21385C26C926, 0x4D2C6DFC5AC42AED, 0x53380D139D95B3DF,
     0x650A73548BAF63DE, 0x766A0ABB3C77B2A8, 0x81C2C92E47EDAEE6, 0x92722C851482353B,
     0xA2BFE8A14CF10364, 0xA81A664BBC423001, 0xC24B8B70D0F89791, 0xC76C51A30654BE30,
     0xD192E819D6EF5218, 0xD69906245565A910, 0xF40E35855771202A, 0x106AA07032BBD1B8,
     0x19A4C116B8D2D0C8, 0x1E376C085141AB53, 0x2748774CDF8EEB99, 0x34B0BCB5E19B48A8,
     0x391C0CB3C5C95A63, 0x4ED8AA4AE3418ACB, 0x5B9CCA4F7763E373, 0x682E6FF3D6B2B8A3,
     0x748F82EE5DEFB2FC, 0x78A5636F43172F60, 0x84C87814A1F0AB72, 0x8CC702081A6439EC,
     0x90BEFFFA23631E28, 0xA4506CEBDE82BDE9, 0xBEF9A3F7B2C67915, 0xC67178F2E372532B,
     0xCA273ECEEA26619C, 0xD186B8C721C0C207, 0xEADA7DD6CDE0EB1E, 0xF57D4F7FEE6ED178,
     0x06F067AA72176FBA, 0x0A637DC5A2C898A6, 0x113F9804BEF90DAE, 0x1B710B35131C471B,
     0x28DB77F523047D84, 0x32CAAB7B40C72493, 0x3C9EBE0A15C9BEBC, 0x431D67C49C100D4C,
     0x4CC5D4BECB3E42B6, 0x597F299CFC657E2A, 0x5FCB6FAB3AD6FAEC, 0x6C44198C4A475817]
  sum0 := (28, 34, 39)
  sum1 := (14, 18, 41)
  sigma0 := (1, 8, 7)
  sigma1 := (19, 61, 6)

/-- The words that SHA-512 starts from. -/
def initial512 : State 64 :=
  { a := 0x6A09E667F3BCC908, b := 0xBB67AE8584CAA73B
    c := 0x3C6EF372FE94F82B, d := 0xA54FF53A5F1D36F1
    e := 0x510E527FADE682D1, f := 0x9B05688C2B3E6C1F
    g := 0x1F83D9ABFB41BD6B, h := 0x5BE0CD19137E2179 }

/-- The words that SHA-384 starts from. -/
def initial384 : State 64 :=
  { a := 0xCBBB9D5DC1059ED8, b := 0x629A292A367CD507
    c := 0x9159015A3070DD17, d := 0x152FECD8F70E5939
    e := 0x67332667FFC00B31, f := 0x8EB44A8768581511
    g := 0xDB0C2E0D64F98FA7, h := 0x47B5481DBEFA4FA4 }

/-- SHA-512. -/
def sha512 : List UInt8 → List UInt8 := digest family64 initial512 64

/-- SHA-384. -/
def sha384 : List UInt8 → List UInt8 := digest family64 initial384 48

end Shortcode.Digest.SHA2
