import Shortcode.Digest.Words

/-!
# MD5

The digest consists of four words of 32 bits, 64 steps for each block of 64 bytes, and
numbers with the least significant byte first.
-/

namespace Shortcode.Digest.MD5

/-- A word of the digest. -/
abbrev Word : Type := BitVec 32

/-- The four words that a block is mixed into. -/
structure State where
  a : Word
  b : Word
  c : Word
  d : Word

/-- The constants of the steps, parts of the sine of the step's number. -/
def constants : List Word :=
  [0xD76AA478, 0xE8C7B756, 0x242070DB, 0xC1BDCEEE, 0xF57C0FAF, 0x4787C62A, 0xA8304613, 0xFD469501,
   0x698098D8, 0x8B44F7AF, 0xFFFF5BB1, 0x895CD7BE, 0x6B901122, 0xFD987193, 0xA679438E, 0x49B40821,
   0xF61E2562, 0xC040B340, 0x265E5A51, 0xE9B6C7AA, 0xD62F105D, 0x02441453, 0xD8A1E681, 0xE7D3FBC8,
   0x21E1CDE6, 0xC33707D6, 0xF4D50D87, 0x455A14ED, 0xA9E3E905, 0xFCEFA3F8, 0x676F02D9, 0x8D2A4C8A,
   0xFFFA3942, 0x8771F681, 0x6D9D6122, 0xFDE5380C, 0xA4BEEA44, 0x4BDECFA9, 0xF6BB4B60, 0xBEBFBC70,
   0x289B7EC6, 0xEAA127FA, 0xD4EF3085, 0x04881D05, 0xD9D4D039, 0xE6DB99E5, 0x1FA27CF8, 0xC4AC5665,
   0xF4292244, 0x432AFF97, 0xAB9423A7, 0xFC93A039, 0x655B59C3, 0x8F0CCC92, 0xFFEFF47D, 0x85845DD1,
   0x6FA87E4F, 0xFE2CE6E0, 0xA3014314, 0x4E0811A1, 0xF7537E82, 0xBD3AF235, 0x2AD7D2BB, 0xEB86D391]

/-- The rotations of the four steps that each round repeats. -/
def rotations : List (List Nat) :=
  [[7, 12, 17, 22], [5, 9, 14, 20], [4, 11, 16, 23], [6, 10, 15, 21]]

/-- The function of the step `i` and the message word that it takes. -/
def selection (s : State) (i : Nat) : Word × Nat :=
  if i < 16 then ((s.b &&& s.c) ||| (~~~s.b &&& s.d), i)
  else if i < 32 then ((s.d &&& s.b) ||| (~~~s.d &&& s.c), (5 * i + 1) % 16)
  else if i < 48 then (s.b ^^^ s.c ^^^ s.d, (3 * i + 5) % 16)
  else (s.c ^^^ (s.b ||| ~~~s.d), (7 * i) % 16)

/-- The step of number `i`. -/
def step (message : Array Word) (s : State) (i : Nat) : State :=
  let (f, place) := selection s i
  let sum := s.a + f + constants.getD i 0 + message.getD place 0
  let turn := (rotations.getD (i / 16) []).getD (i % 4) 0
  { a := s.d, b := s.b + sum.rotateLeft turn, c := s.b, d := s.c }

/-- Mix a block into the state. -/
def compress (s : State) (block : List UInt8) : State :=
  let message := ((blocks 4 block).map fun b => BitVec.ofNat 32 (numberOfLowFirst b)).toArray
  let t := (List.range 64).foldl (step message) s
  { a := s.a + t.a, b := s.b + t.b, c := s.c + t.c, d := s.d + t.d }

/-- The state before the first block. -/
def initial : State :=
  { a := 0x67452301, b := 0xEFCDAB89, c := 0x98BADCFE, d := 0x10325476 }

/-- The digest of a message. -/
def digest (message : List UInt8) : List UInt8 :=
  let s := (blocks 64 (padded 64 8 bytesLowFirst message)).foldl compress initial
  [s.a, s.b, s.c, s.d].flatMap fun word => bytesLowFirst 4 word.toNat

end Shortcode.Digest.MD5
