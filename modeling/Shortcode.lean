import Shortcode.Action
import Shortcode.Attributes.Basic
import Shortcode.Attributes.Merge
import Shortcode.Attributes.Parse
import Shortcode.Attributes.Token
import Shortcode.Char.Blank
import Shortcode.Char.Blocks
import Shortcode.Char.Case
import Shortcode.Char.Printable
import Shortcode.Char.Word
import Shortcode.Config
import Shortcode.Contains
import Shortcode.Datum
import Shortcode.Digest.Algorithm
import Shortcode.Digest.BLAKE2
import Shortcode.Digest.MD5
import Shortcode.Digest.SHA1
import Shortcode.Digest.SHA2
import Shortcode.Digest.SHA3
import Shortcode.Digest.Words
import Shortcode.DigestTag
import Shortcode.Entries
import Shortcode.Expand
import Shortcode.Fault
import Shortcode.Handler.Basic
import Shortcode.Handler.Run
import Shortcode.Name.Candidates
import Shortcode.Name.Rules
import Shortcode.Name.Set
import Shortcode.Processor
import Shortcode.Proofs.Action
import Shortcode.Proofs.Attributes.Grammar
import Shortcode.Proofs.Attributes.Markup
import Shortcode.Proofs.Attributes.Values
import Shortcode.Proofs.Attributes.Written
import Shortcode.Proofs.Config.Scope
import Shortcode.Proofs.Name.Candidates
import Shortcode.Proofs.Name.Hides
import Shortcode.Proofs.Pass.Called
import Shortcode.Proofs.Pass.Calls
import Shortcode.Proofs.Pass.Carried
import Shortcode.Proofs.Pass.Contained
import Shortcode.Proofs.Pass.Course
import Shortcode.Proofs.Pass.Digested
import Shortcode.Proofs.Pass.Erased
import Shortcode.Proofs.Pass.Expansion
import Shortcode.Proofs.Pass.Narrowed
import Shortcode.Proofs.Pass.Nested
import Shortcode.Proofs.Pass.Protected
import Shortcode.Proofs.Pass.Registered
import Shortcode.Proofs.Pass.Restored
import Shortcode.Proofs.Pass.Settled
import Shortcode.Proofs.Pass.Stripping
import Shortcode.Proofs.Pass.ToldApart
import Shortcode.Proofs.Pass.Turns
import Shortcode.Proofs.Pass.Unrelated
import Shortcode.Proofs.Registry.History
import Shortcode.Proofs.Registry.Reachable
import Shortcode.Proofs.Registry.Rejected
import Shortcode.Proofs.Session.Scope
import Shortcode.Proofs.Tag.Alternatives
import Shortcode.Proofs.Tag.Contains
import Shortcode.Proofs.Tag.Doubled
import Shortcode.Proofs.Tag.Forest
import Shortcode.Proofs.Tag.Found
import Shortcode.Proofs.Tag.Gaps
import Shortcode.Proofs.Tag.Legible
import Shortcode.Proofs.Tag.Narrowing
import Shortcode.Proofs.Tag.Nest
import Shortcode.Proofs.Tag.Overrun
import Shortcode.Proofs.Tag.Paired
import Shortcode.Proofs.Tag.Places
import Shortcode.Proofs.Tag.Unambiguous
import Shortcode.Proofs.Tag.Written
import Shortcode.Proofs.Text.Cuts
import Shortcode.Proofs.Text.Marks
import Shortcode.Proofs.Text.Masked
import Shortcode.Proofs.Text.Readers
import Shortcode.Proofs.Text.Restored
import Shortcode.Proofs.Text.Spelled
import Shortcode.Registry
import Shortcode.Session.Basic
import Shortcode.Session.Run
import Shortcode.Strip
import Shortcode.Tag
import Shortcode.Tag.Pattern
import Shortcode.Tag.Scan
import Shortcode.Text.Basic
import Shortcode.Text.Bytes
import Shortcode.Text.Escapes
import Shortcode.Text.Pieces
import Shortcode.Text.Quoted
import Shortcode.Text.References
import Shortcode.Text.Spaces
import Shortcode.World
