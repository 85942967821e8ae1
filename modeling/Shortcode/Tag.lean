import Shortcode.Name.Rules

/-!
# Tags

A tag is a name in brackets with the text of its attributes.  It closes itself, as in
`[name attributes/]`, or encloses a content up to its closing mark, as in
`[name attributes]content[/name]`, or stands bare, as in `[name attributes]`.  The brackets
may be doubled on either side; a tag with both sides doubled is escaped and stands for
itself.

`Tag.render` writes a tag.  `Tag.read` reads the tag at the start of a text, given the names
that tags may have; `render_append_of_read` says that what it takes from the text is the
written form of the tag it gives.
-/

namespace Shortcode

/-- What follows the attributes of a tag. -/
inductive Body where
  /-- The tag closes itself by a slash. -/
  | selfClosing
  /-- The tag has neither a slash nor a closing mark. -/
  | bare
  /-- The tag encloses a content and is closed by its closing mark. -/
  | enclosing (content : Text)
  deriving DecidableEq, Repr

/-- A tag as it stands in a text. -/
structure Tag where
  /-- The opening bracket is doubled. -/
  doubledOpen : Bool
  name : Text
  /-- The text between the name and the end of the opening mark. -/
  attributes : Text
  body : Body
  /-- The last closing bracket is doubled. -/
  doubledClose : Bool
  deriving DecidableEq, Repr

/-- The mark that closes an enclosing tag. -/
def closingMark (name : Text) : Text := '[' :: '/' :: name ++ [']']

/-- The written form of what follows the attributes of a tag of the given name. -/
def Body.render (name : Text) : Body → Text
  | .selfClosing => ['/', ']']
  | .bare => [']']
  | .enclosing content => ']' :: content ++ closingMark name

namespace Tag

/-- The content that a tag encloses, if it does. -/
def content? (tag : Tag) : Option Text :=
  match tag.body with
  | .enclosing content => some content
  | _ => none

/-- The tag closes itself. -/
def isSelfClosing (tag : Tag) : Bool := tag.body == .selfClosing

/-- The additional bracket before the tag. -/
def opener (tag : Tag) : Text := if tag.doubledOpen then ['['] else []

/-- The additional bracket behind the tag. -/
def closer (tag : Tag) : Text := if tag.doubledClose then [']'] else []

/-- The tag stands for itself, since both of its sides are doubled. -/
def isEscaped (tag : Tag) : Bool := tag.doubledOpen && tag.doubledClose

/-- The tag without its additional brackets, as it is written. -/
def core (tag : Tag) : Text := '[' :: tag.name ++ tag.attributes ++ tag.body.render tag.name

/-- The written form of a tag. -/
def render (tag : Tag) : Text := tag.opener ++ tag.core ++ tag.closer

/-- The written form without its first and its last character. -/
def unescaped (tag : Tag) : Text := (tag.render.drop 1).dropLast

theorem render_ne_nil (tag : Tag) :
  tag.render ≠ []
  := by simp [render, core]

/-- An escaped tag without its outer characters is the tag without additional brackets. -/
theorem unescaped_of_isEscaped {tag : Tag} (escaped : tag.isEscaped) :
  tag.unescaped = tag.core
  := by
  simp only [isEscaped, Bool.and_eq_true] at escaped
  simp [unescaped, render, opener, closer, escaped.1, escaped.2]

/-! ### Reading -/

/-- No character that would continue a name stands at the start of the text. -/
def endsName : Text → Bool
  | [] => true
  | c :: _ => !isNameChar c

/-- Read the rest of an opening mark: the text of the attributes, whether the tag closes
itself, and the text behind the mark.  The mark ends with the first closing bracket. -/
def readOpening : Text → Option (Text × Bool × Text)
  | [] => none
  | c :: text =>
    if c = ']' then some ([], false, text)
    else
      match c, text with
      | '/', ']' :: rest => some ([], true, rest)
      | _, _ =>
        (readOpening text).map fun (attributes, closes, rest) => (c :: attributes, closes, rest)

/-- Read what an opening mark is followed by: a content up to the first closing mark, if
there is one. -/
def readBody (name : Text) (closes : Bool) (text : Text) : Body × Text :=
  if closes then (.selfClosing, text)
  else
    match Text.splitAtFirst? (closingMark name) text with
    | some (content, rest) => (.enclosing content, rest)
    | none => (.bare, text)

/-- Read an additional closing bracket. -/
def readDoubledClose : Text → Bool × Text
  | ']' :: rest => (true, rest)
  | text => (false, text)

/-- Read a tag of the given name, behind its opening brackets. -/
def readNamed (doubledOpen : Bool) (text name : Text) : Option (Tag × Text) := do
  let text ← Text.after? name text
  guard (endsName text)
  let (attributes, closes, text) ← readOpening text
  let (body, text) := readBody name closes text
  let (doubledClose, rest) := readDoubledClose text
  return ({ doubledOpen, name, attributes, body, doubledClose }, rest)

/-- Read a tag behind its first opening bracket, with that bracket doubled or not. -/
def readBehind (names : List Text) (text : Text) : Option (Tag × Text) :=
  let doubled :=
    match text with
    | '[' :: text => names.findSome? (readNamed true text)
    | _ => none
  doubled.or (names.findSome? (readNamed false text))

/-- Read the tag at the start of a text.  A doubled bracket is preferred, and of several
names the first one that makes a tag. -/
def read (names : List Text) : Text → Option (Tag × Text)
  | '[' :: text => readBehind names text
  | _ => none

theorem eq_of_readOpening {text attributes rest : Text} {closes : Bool}
    (h : readOpening text = some (attributes, closes, rest)) :
  text = attributes ++ (if closes then ['/', ']'] else [']']) ++ rest
  := by
  induction text generalizing attributes with
  | nil => simp [readOpening] at h
  | cons c text ih =>
    unfold readOpening at h
    split at h
    · rename_i close
      simp only [Option.some.injEq, Prod.mk.injEq] at h
      obtain ⟨rfl, rfl, rfl⟩ := h
      simp [close]
    · split at h
      · simp only [Option.some.injEq, Prod.mk.injEq] at h
        obtain ⟨rfl, rfl, rfl⟩ := h
        simp
      · simp only [Option.map_eq_some_iff, Prod.exists, Prod.mk.injEq] at h
        obtain ⟨attributes', closes', rest', found, rfl, rfl, rfl⟩ := h
        simp only [List.cons_append]
        rw [← ih found]

theorem eq_of_readBody {name text rest : Text} {closes : Bool} {body : Body}
    (h : readBody name closes text = (body, rest)) :
  (if closes then ['/', ']'] else [']']) ++ text = body.render name ++ rest
  := by
  unfold readBody at h
  split at h
  · rename_i closed
    simp only [Prod.mk.injEq] at h
    obtain ⟨rfl, rfl⟩ := h
    simp [closed, Body.render]
  · rename_i opened
    split at h
    · rename_i content rest' found
      simp only [Prod.mk.injEq] at h
      obtain ⟨rfl, rfl⟩ := h
      simp [opened, Body.render, Text.eq_of_splitAtFirst? found]
    · simp only [Prod.mk.injEq] at h
      obtain ⟨rfl, rfl⟩ := h
      simp [opened, Body.render]

theorem eq_of_readDoubledClose {text rest : Text} {doubled : Bool}
    (h : readDoubledClose text = (doubled, rest)) :
  text = (if doubled then [']'] else []) ++ rest
  := by
  unfold readDoubledClose at h
  split at h <;> simp_all

theorem render_append_of_readNamed {doubledOpen : Bool} {name text rest : Text} {tag : Tag}
    (h : readNamed doubledOpen text name = some (tag, rest)) :
  tag.doubledOpen = doubledOpen ∧ tag.name = name ∧ tag.opener ++ '[' :: text = tag.render ++ rest
  := by
  obtain ⟨behind, start, h⟩ := Option.bind_eq_some_iff.mp h
  obtain ⟨_, _, h⟩ := Option.bind_eq_some_iff.mp h
  obtain ⟨⟨attributes, closes, opened⟩, opening, h⟩ := Option.bind_eq_some_iff.mp h
  simp only [Option.pure_def, Option.some.injEq, Prod.mk.injEq] at h
  obtain ⟨rfl, rfl⟩ := h
  refine ⟨rfl, rfl, ?_⟩
  have close :=
    eq_of_readDoubledClose (Prod.eta (readDoubledClose (readBody name closes opened).2)).symm
  have body := eq_of_readBody (Prod.eta (readBody name closes opened)).symm
  simp only [render, core, closer, opener]
  rw [Text.eq_append_of_after? start, eq_of_readOpening opening]
  simp only [List.append_assoc, List.cons_append]
  rw [body, ← close]

/-- What is read from a text is the written form of the tag. -/
theorem render_append_of_read {names : List Text} {text rest : Text} {tag : Tag}
    (h : read names text = some (tag, rest)) :
  text = tag.render ++ rest
  := by
  unfold read at h
  split at h
  · rename_i text
    simp only [readBehind, Option.or_eq_some_iff] at h
    rcases h with h | ⟨_, h⟩
    · split at h
      · obtain ⟨name, _, found⟩ := List.exists_of_findSome?_eq_some h
        obtain ⟨doubled, _, whole⟩ := render_append_of_readNamed found
        simpa [opener, doubled] using whole
      · simp at h
    · obtain ⟨name, _, found⟩ := List.exists_of_findSome?_eq_some h
      obtain ⟨single, _, whole⟩ := render_append_of_readNamed found
      simpa [opener, single] using whole
  · simp at h

end Tag

end Shortcode
