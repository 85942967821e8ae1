import Shortcode.Digest.BLAKE2
import Shortcode.Digest.MD5
import Shortcode.Digest.SHA1
import Shortcode.Digest.SHA2
import Shortcode.Digest.SHA3
import Shortcode.Fault
import Shortcode.Text.Bytes

/-!
# Digests by name

A digest algorithm is asked for by name.  Each has a name that is matched as it stands, and
further spellings that are matched without regard to the case of ASCII letters.  The
extendable digests are known by name too, but have no length of their own.

`digestOf name text` is the digest of the UTF-8 form of a text in hexadecimal.
-/

namespace Shortcode

namespace Digest

/-- The digest algorithms with a fixed length that every platform has.  Those that only some builds
of the cryptographic library add (`sm3`, `sha512_256`, `ripemd160`, `md5-sha1`) are left out: here
their names are unknown. -/
inductive Algorithm where
  | md5
  | sha1
  | sha224
  | sha256
  | sha384
  | sha512
  | sha3of224
  | sha3of256
  | sha3of384
  | sha3of512
  | blake2b
  | blake2s
  deriving DecidableEq, Repr

namespace Algorithm

/-- All algorithms. -/
def all : List Algorithm :=
  [.md5, .sha1, .sha224, .sha256, .sha384, .sha512, .sha3of224, .sha3of256, .sha3of384,
   .sha3of512, .blake2b, .blake2s]

/-- The name of an algorithm. -/
def name : Algorithm → Text
  | .md5 => "md5".toList
  | .sha1 => "sha1".toList
  | .sha224 => "sha224".toList
  | .sha256 => "sha256".toList
  | .sha384 => "sha384".toList
  | .sha512 => "sha512".toList
  | .sha3of224 => "sha3_224".toList
  | .sha3of256 => "sha3_256".toList
  | .sha3of384 => "sha3_384".toList
  | .sha3of512 => "sha3_512".toList
  | .blake2b => "blake2b".toList
  | .blake2s => "blake2s".toList

/-- The spellings that may be written with letters of either case. -/
def spellings : Algorithm → List Text
  | .md5 => ["md5".toList, "ssl3-md5".toList]
  | .sha1 => ["sha1".toList, "sha-1".toList, "ssl3-sha1".toList]
  | .sha224 => ["sha224".toList, "sha-224".toList, "sha2-224".toList]
  | .sha256 => ["sha256".toList, "sha-256".toList, "sha2-256".toList]
  | .sha384 => ["sha384".toList, "sha-384".toList, "sha2-384".toList]
  | .sha512 => ["sha512".toList, "sha-512".toList, "sha2-512".toList]
  | .sha3of224 => ["sha3-224".toList]
  | .sha3of256 => ["sha3-256".toList]
  | .sha3of384 => ["sha3-384".toList]
  | .sha3of512 => ["sha3-512".toList]
  | .blake2b => ["blake2b512".toList, "blake2b-512".toList]
  | .blake2s => ["blake2s256".toList, "blake2s-256".toList]

/-- The digest of a message. -/
def digest : Algorithm → List UInt8 → List UInt8
  | .md5 => MD5.digest
  | .sha1 => SHA1.digest
  | .sha224 => SHA2.sha224
  | .sha256 => SHA2.sha256
  | .sha384 => SHA2.sha384
  | .sha512 => SHA2.sha512
  | .sha3of224 => SHA3.digest 28
  | .sha3of256 => SHA3.digest 32
  | .sha3of384 => SHA3.digest 48
  | .sha3of512 => SHA3.digest 64
  | .blake2b => BLAKE2.blake2b
  | .blake2s => BLAKE2.blake2s

/-- The algorithm answers to the name. -/
def answersTo (algorithm : Algorithm) (name : Text) : Bool :=
  name == algorithm.name || algorithm.spellings.contains (name.map Char.toLower)

/-- The algorithm of a name, if it has a fixed length. -/
def named? (name : Text) : Option Algorithm := all.find? (answersTo · name)

end Algorithm

/-- The name belongs to a digest that has no length of its own. -/
def isExtendable (name : Text) : Bool :=
  ["shake_128".toList, "shake_256".toList].contains name
    || ["shake128".toList, "shake-128".toList, "shake256".toList, "shake-256".toList].contains
      (name.map Char.toLower)

end Digest

/-- The digest of a text by the algorithm of the given name, in hexadecimal. -/
def digestOf (name text : Text) : Except Fault Text :=
  if name.elem (Char.ofNat 0) then .error .digestNameCut
  else
    match Digest.Algorithm.named? name with
    | some algorithm => .ok (Digest.hex (algorithm.digest text.utf8))
    | none =>
      if Digest.isExtendable name then .error .digestLengthMissing
      else .error (.unsupportedDigest name)

end Shortcode
