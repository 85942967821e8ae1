import Shortcode.Digest.Words

/-!
# SHA-1

The digest consists of five words of 32 bits, 80 steps for each block of 64 bytes,
and numbers with the most significant byte first.
-/

namespace Shortcode.Digest.SHA1

/-- A word of the digest. -/
abbrev Word : Type := BitVec 32

/-- The five words that a block is mixed into. -/
structure State where
  a : Word
  b : Word
  c : Word
  d : Word
  e : Word

/-- The words of a block, continued to 80. -/
def schedule (block : List UInt8) : Array Word :=
  let first := ((blocks 4 block).map fun b => BitVec.ofNat 32 (numberOfHighFirst b)).toArray
  (List.range 64).foldl
    (fun words i =>
      let sum := words.getD (i + 13) 0 ^^^ words.getD (i + 8) 0 ^^^ words.getD (i + 2) 0
        ^^^ words.getD i 0
      words.push (sum.rotateLeft 1))
    first

/-- The function and the constant of the step `i`. -/
def selection (s : State) (i : Nat) : Word × Word :=
  if i < 20 then ((s.b &&& s.c) ||| (~~~s.b &&& s.d), 0x5A827999)
  else if i < 40 then (s.b ^^^ s.c ^^^ s.d, 0x6ED9EBA1)
  else if i < 60 then ((s.b &&& s.c) ||| (s.b &&& s.d) ||| (s.c &&& s.d), 0x8F1BBCDC)
  else (s.b ^^^ s.c ^^^ s.d, 0xCA62C1D6)

/-- The step of number `i`. -/
def step (words : Array Word) (s : State) (i : Nat) : State :=
  let (f, constant) := selection s i
  { a := s.a.rotateLeft 5 + f + s.e + constant + words.getD i 0
    b := s.a
    c := s.b.rotateLeft 30
    d := s.c
    e := s.d }

/-- Mix a block into the state. -/
def compress (s : State) (block : List UInt8) : State :=
  let t := (List.range 80).foldl (step (schedule block)) s
  { a := s.a + t.a, b := s.b + t.b, c := s.c + t.c, d := s.d + t.d, e := s.e + t.e }

/-- The state before the first block. -/
def initial : State :=
  { a := 0x67452301, b := 0xEFCDAB89, c := 0x98BADCFE, d := 0x10325476, e := 0xC3D2E1F0 }

/-- The digest of a message. -/
def digest (message : List UInt8) : List UInt8 :=
  let s := (blocks 64 (padded 64 8 bytesHighFirst message)).foldl compress initial
  [s.a, s.b, s.c, s.d, s.e].flatMap fun word => bytesHighFirst 4 word.toNat

end Shortcode.Digest.SHA1
