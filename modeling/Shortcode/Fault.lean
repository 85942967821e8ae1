import Shortcode.Text.Quoted

/-!
# Faults

A fault is the cause of a failure, kept as data: a name that cannot be registered, a name
bound to something that is no handler, a missing name, an unusable digest, or what a handler
or hook raises of its own.  `Fault.message` is the wording of each, in one place, and
`Fault.isIn` says which families of errors a fault belongs to.

Text that contains malformed tags is never at fault: such tags are left as they are.
-/

namespace Shortcode

/-- The kinds of plain values, as messages tell them apart. -/
inductive ValueKind where
  | nothing
  | text
  | integer
  | decimal
  | truth
  | list
  | mapping
  | tuple
  | set
  | bytes
  deriving DecidableEq, Repr

/-- The word that messages use for a kind of value. -/
def ValueKind.label : ValueKind → Text
  | .nothing => "NoneType".toList
  | .text => "str".toList
  | .integer => "int".toList
  | .decimal => "float".toList
  | .truth => "bool".toList
  | .list => "list".toList
  | .mapping => "dict".toList
  | .tuple => "tuple".toList
  | .set => "set".toList
  | .bytes => "bytes".toList

/-- What is wrong with the name of a shortcode. -/
inductive NameFlaw where
  /-- It is empty, or has blank characters only. -/
  | blank
  /-- It contains a character that no name may contain. -/
  | reserved
  /-- A reason in the words of the caller. -/
  | stated (reason : Text)
  deriving DecidableEq, Repr

/-- The wording of a flaw. -/
def NameFlaw.message : NameFlaw → Text
  | .blank => "Empty name given.".toList
  | .reserved => "Do not use spaces or reserved characters: & / < > [ ] =".toList
  | .stated reason => reason

/-- The families that errors belong to. -/
inductive Family where
  /-- Errors that are about shortcodes. -/
  | shortcode
  /-- A value of the right type that cannot be used. -/
  | value
  /-- A value of the wrong type. -/
  | type
  /-- A failure at work with no family of its own. -/
  | runtime
  /-- A key that is not there. -/
  | key
  /-- An operation that a value does not have. -/
  | attribute
  deriving DecidableEq, Repr

/-- The cause of a failure. -/
inductive Fault where
  /-- The name cannot be registered. -/
  | invalidName (name : Text) (flaw : NameFlaw)
  /-- The name is bound to a value that cannot be called. -/
  | invalidHandler (name : Text) (kind : ValueKind)
  /-- A pattern was asked for without any name. -/
  | noTagNames
  /-- A handler was to be registered under no name at all. -/
  | noShortcodeNames
  /-- There is no digest of that name. -/
  | unsupportedDigest (name : Text)
  /-- The name of a digest contains the null character. -/
  | digestNameCut
  /-- The digest has no length of its own, and none was given. -/
  | digestLengthMissing
  /-- There is no entry under the key. -/
  | missingKey (key : Text)
  /-- A value of that kind has no lower-case form. -/
  | noLowerCase (kind : ValueKind)
  /-- A handler, a hook or a caller raised an error of that family. -/
  | raised (family : Family) (message : Text)
  deriving DecidableEq, Repr

namespace Fault

/-- The wording of a fault. -/
def message : Fault → Text
  | .invalidName name flaw =>
    "Invalid shortcode name ".toList ++ quoted name ++ ": ".toList ++ flaw.message
  | .invalidHandler name kind =>
    "Shortcode '".toList ++ name ++ "' has no valid callback (registered value is ".toList
      ++ kind.label ++ ")".toList
  | .noTagNames => "At least one tag name must be provided".toList
  | .noShortcodeNames => "At least one shortcode name must be provided".toList
  | .unsupportedDigest name => "unsupported hash type ".toList ++ name
  | .digestNameCut => "name must be a string".toList
  | .digestLengthMissing => "hexdigest() missing required argument 'length' (pos 1)".toList
  | .missingKey key => quoted key
  | .noLowerCase kind => quoted kind.label ++ " object has no attribute 'lower'".toList
  | .raised _ message => message

/-- The families of a fault, its own one first. -/
def families : Fault → List Family
  | .invalidName _ _ => [.shortcode, .value]
  | .invalidHandler _ _ => [.shortcode, .type]
  | .noTagNames => [.value]
  | .noShortcodeNames => [.value]
  | .unsupportedDigest _ => [.value]
  | .digestNameCut => [.type]
  | .digestLengthMissing => [.type]
  | .missingKey _ => [.key]
  | .noLowerCase _ => [.attribute]
  | .raised family _ => [family]

/-- The fault belongs to the family. -/
def isIn (fault : Fault) (family : Family) : Bool := fault.families.contains family

end Fault

end Shortcode
