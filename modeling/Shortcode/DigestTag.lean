import Shortcode.Attributes.Merge
import Shortcode.Char.Case
import Shortcode.Digest.Algorithm

/-!
# The digest shortcode

The one built-in shortcode, `hash`, is replaced by the digest of its content in hexadecimal.
The algorithm is its attribute `algo`, or its first positional value; where none is given,
MD5 is taken.
-/

namespace Shortcode

/-- The name of the built-in shortcode. -/
def digestTagName : Text := "hash".toList

/-- The algorithm that is taken where none is given. -/
def defaultDigest : Text := "md5".toList

/-- The attribute that gives the algorithm. -/
def digestKey : Text := "algo".toList

/-- The name of an algorithm given as a value, in lower case; a value that counts as absent
stands for the default. -/
def digestNameOf (value : Datum) : Except Fault Text :=
  if value.isBlank then .ok defaultDigest
  else
    match value with
    | .text name => .ok (lower name)
    | value => .error (.noLowerCase value.kind)

variable {H : Type} {K : HookKind → Type} {σ : Type}

/-- The value that gives the algorithm of a tag. -/
def Hooks.digestValue (hooks : Hooks H K σ) (attributes : Option Attributes) (tag : Text) :
    Action (World H K σ) Datum := do
  match attributes with
  | some (.positional values) => return .text (values.headD [])
  | attributes =>
    let result ← hooks.merge [(digestKey, .text defaultDigest)] attributes tag
    match result.get? digestKey with
    | some value => return value
    | none => throw (.missingKey digestKey)

/-- The digest of the content of a tag. -/
def Hooks.digestTag (hooks : Hooks H K σ) (attributes : Option Attributes)
    (content : Option Text) (tag : Text) : Action (World H K σ) Text := do
  let value ← hooks.digestValue attributes tag
  let name ← Action.lift (digestNameOf value)
  Action.lift (digestOf name (content.getD []))

end Shortcode
