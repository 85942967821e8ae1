import Shortcode.Expand
import Shortcode.Proofs.Tag.Places

/-!
# The text between tags

The text that is left between the tags of a scan is cut out by the places of the tags
(`gaps`).  Replacing the tags one after the other fills what replaces them into the pieces of
the text (`substitute_eq`), which is to weave it into the text between the tags
(`Tag.fill_pieces`).  The tags themselves, woven in, make up the text (`Tag.weave_gaps_text`).
-/

namespace Shortcode

/-- The parts of a text before, between and behind the given occurrences, from a place on. -/
def gaps (text : Text) : Nat → List Occurrence → List Text
  | start, [] => [text.drop start]
  | start, occurrence :: occurrences =>
    text.slice start occurrence.start :: gaps text occurrence.stop occurrences

/-- Texts put alternately: a part, a text, a part, and so on. -/
def weave : List Text → List Text → Text
  | part :: parts, text :: texts => part ++ text ++ weave parts texts
  | parts, _ => parts.flatten

/-- The text of pieces whose items are replaced by the given texts in order. -/
def fill : List (Piece Occurrence) → List Text → Text
  | .char c :: pieces, texts => c :: fill pieces texts
  | .item _ :: pieces, text :: texts => text ++ fill pieces texts
  | _, _ => []

section

variable {m : Type → Type} [Monad m] {α : Type}

/-- What takes the place of a piece. -/
def replacePiece (replace : Occurrence → m Text) : Piece Occurrence → m Text
  | .char c => pure [c]
  | .item occurrence => replace occurrence

/-- Replacing all pieces comes to replacing the items and filling in the characters. -/
theorem mapM_replacePiece_bind [LawfulMonad m] (replace : Occurrence → m Text)
    (pieces : List (Piece Occurrence)) (next : Text → m α) :
  (pieces.mapM (replacePiece replace) >>= fun parts => next parts.flatten)
    = (pieces.filterMap Piece.item?).mapM replace >>= fun texts => next (fill pieces texts)
  := by
  induction pieces generalizing next with
  | nil => simp [fill]
  | cons piece pieces ih =>
    cases piece with
    | char c =>
      simp only [List.mapM_cons, replacePiece, pure_bind, bind_assoc, List.flatten_cons]
      rw [ih fun text => next ([c] ++ text)]
      rfl
    | item occurrence =>
      simp only [List.mapM_cons, replacePiece, bind_assoc, pure_bind, List.flatten_cons,
        List.filterMap_cons, Piece.item?]
      congr 1
      funext text
      rw [ih fun rest => next (text ++ rest)]
      rfl

end

namespace Tag

variable {names : NameSet}

/-- The pieces of a text behind `before ++ pending`, filled in, are woven into the text between
the tags; `pending` is what was passed over since the last tag. -/
theorem weave_gaps_scanFrom {before pending text : Text} {texts : List Text}
    (enough : texts.length = (scanFrom names (before ++ pending).length text).length) :
  weave
      (gaps (before ++ pending ++ text) before.length
        (scanFrom names (before ++ pending).length text))
      texts
    = pending ++ fill
        (locate (before ++ pending).length (Text.pieces (read names.toList) text)) texts
  := by
  induction text using @scan_induction names generalizing before pending texts with
  | nil =>
    obtain rfl := List.eq_nil_of_length_eq_zero enough
    simp [scanFrom_nil, gaps, weave, locate, fill]
  | skip c text declined ih =>
    rw [scanFrom_of_skip declined] at enough ⊢
    have step := @ih before (pending ++ [c]) texts
    have length : (before ++ (pending ++ [c])).length = (before ++ pending).length + 1 := by
      simp [Nat.add_assoc]
    rw [length] at step
    rw [Text.pieces_of_skip declined]
    simpa [locate, fill] using step enough
  | item tag rest found ih =>
    rw [scanFrom_of_read found] at enough ⊢
    obtain ⟨text, texts, rfl⟩ := List.exists_cons_of_length_eq_add_one enough
    have step := @ih (before ++ pending ++ tag.render) [] texts
    have length :
      (before ++ pending ++ tag.render).length = (before ++ pending).length + tag.render.length
      := List.length_append
    rw [List.append_nil, length] at step
    rw [Text.pieces_of_read tag.render_ne_nil found]
    simp only [gaps, weave, locate, fill]
    have gap :
      (before ++ pending ++ (tag.render ++ rest)).slice before.length
        (before ++ pending).length = pending
      := by
      rw [List.length_append, Text.slice_append]
    rw [gap]
    simp only [List.length_cons, Nat.add_right_cancel_iff] at enough
    simpa [Occurrence.stop, Occurrence.text] using step enough

/-- Filling in the pieces of a text is weaving into the text between its tags. -/
theorem fill_pieces {text : Text} {texts : List Text}
    (enough : texts.length = (scan names text).length) :
  fill (pieces names text) texts = weave (gaps text 0 (scan names text)) texts
  := (@weave_gaps_scanFrom names [] [] text texts enough).symm

theorem fill_text (pieces : List (Piece Occurrence)) :
  fill pieces ((pieces.filterMap Piece.item?).map Occurrence.text)
    = pieces.flatMap (Piece.render Occurrence.text)
  := by
  induction pieces with
  | nil => rfl
  | cons piece pieces ih =>
    cases piece with
    | char c => apply congrArg (c :: ·) ih
    | item occurrence => simpa [fill, Piece.item?, Piece.render] using ih

/-- The tags woven into the text between them make up the text. -/
theorem weave_gaps_text (names : NameSet) (text : Text) :
  weave (gaps text 0 (scan names text)) ((scan names text).map Occurrence.text) = text
  := by
  rw [← fill_pieces (List.length_map _), scan, fill_text]
  apply flatMap_render_pieces

end Tag

/-- With any name at all, the tags are replaced in order, and the brackets of the whole are
restored. -/
theorem substitute_eq {m : Type → Type} [Monad m] [LawfulMonad m] (replace : Occurrence → m Text)
    {names : NameSet} (text : Text) (nonempty : ∃ name, name ∈ names) :
  substitute replace names text
    = (Tag.scan names text).mapM replace >>= fun texts =>
      pure (restoreBrackets (fill (Tag.pieces names text) texts))
  := by
  have filled : names.isEmpty = false := NameSet.isEmpty_eq_false_iff.mpr nonempty
  rw [substitute, if_neg (by simp [filled])]
  apply mapM_replacePiece_bind replace _ fun text => pure (restoreBrackets text)

end Shortcode
