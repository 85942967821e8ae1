import Shortcode.Name.Rules
import Shortcode.Name.Set
import Shortcode.Text.Pieces

/-!
# Candidate names

Before a text is searched for tags, the names that could be meant are collected: whatever
follows an opening bracket, up to the next delimiter.  Only names among these candidates
take part in the search.
-/

namespace Shortcode

/-- Read an opening bracket and the longest possible name behind it. -/
def readCandidate : Text → Option (Text × Text)
  | '[' :: text =>
    match text.takeWhile (!isDelimiter ·) with
    | [] => none
    | c :: name => some (c :: name, text.dropWhile (!isDelimiter ·))
  | _ => none

/-- The names that follow opening brackets of the text. -/
def candidates (text : Text) : NameSet := .ofList (Text.items readCandidate text)

end Shortcode
