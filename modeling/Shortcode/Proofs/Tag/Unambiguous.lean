import Shortcode.Proofs.Tag.Found
import Shortcode.Proofs.Text.Cuts

/-!
# Tags are unambiguous

Once the name of a tag is fixed, the rest of the tag is as well.  From the end of the name there
is at most one way to the end of the opening mark (`EndsOpening`), and from there at most one way
to the closing mark (`EndsContent`), and the tags that are found go these ways.

So it makes no difference in which order a matcher tries the cuts that the loops over attributes
and contents can make: `Tag.scanBy` finds the same tags with all quantifiers
(`Tag.scanBy_eq_scan`).
-/

namespace Shortcode

namespace Tag

/-- The end of an opening mark. -/
def openingEnd (closes : Bool) : Text := if closes then ['/', ']'] else [']']

/-- The text starts with attributes and the end of an opening mark, with `rest` behind it. -/
structure EndsOpening (text attributes : Text) (closes : Bool) (rest : Text) : Prop where
  whole : text = attributes ++ openingEnd closes ++ rest
  clean : ']' ∉ attributes
  /-- No slash of the attributes has a closing bracket directly behind it in the text. -/
  unslashed : ∀ place, attributes[place]? = some '/' → text[place + 1]? ≠ some ']'

/-- The text starts with a content and the closing mark of a name, with `rest` behind it. -/
structure EndsContent (name text content rest : Text) : Prop where
  whole : text = content ++ closingMark name ++ rest
  /-- No opening bracket of the content has the rest of the closing mark directly behind it in the
  text. -/
  unclosed : ∀ place, content[place]? = some '[' →
    ¬ '/' :: name ++ [']'] <+: text.drop (place + 1)

variable {name text attributes content rest : Text} {closes : Bool}

/-! ### One way to go on -/

theorem unslashed_iff (clean : ']' ∉ attributes) :
  (∀ place, attributes[place]? = some '/' →
      (attributes ++ openingEnd closes ++ rest)[place + 1]? ≠ some ']')
    ↔ (closes = false → attributes.getLast? ≠ some '/')
  := by
  constructor
  · rintro unslashed rfl last
    rw [List.getLast?_eq_getElem?] at last
    apply unslashed _ last
    have long : attributes ≠ [] := by
      rintro rfl
      contradiction
    have length := List.length_pos_iff.mpr long
    rw [Nat.sub_add_cancel length, List.append_assoc, List.getElem?_append_right (Nat.le_refl _),
      Nat.sub_self]
    rfl
  · intro last place here close
    obtain ⟨low, -⟩ := List.getElem?_eq_some_iff.mp here
    rw [List.append_assoc] at close
    rcases Nat.lt_or_ge (place + 1) attributes.length with inside | behind
    · rw [List.getElem?_append_left inside] at close
      apply clean
      apply List.mem_of_getElem? close
    · have length : place + 1 = attributes.length := by omega
      rw [List.getElem?_append_right behind, length, Nat.sub_self] at close
      cases closes with
      | true => simp [openingEnd] at close
      | false =>
        apply last rfl
        rw [List.getLast?_eq_getElem?, ← length]
        apply here

/-- The way to the end of an opening mark is the one that is read. -/
theorem endsOpening_iff :
  EndsOpening text attributes closes rest
    ↔ readOpening text = some (attributes, closes, rest)
  := by
  rw [readOpening_eq_some_iff]
  constructor
  · rintro ⟨rfl, clean, unslashed⟩
    exact ⟨rfl, clean, (unslashed_iff clean).mp unslashed⟩
  · rintro ⟨rfl, clean, last⟩
    exact ⟨rfl, clean, (unslashed_iff clean).mpr last⟩

/-- A mark stands at a place if its first character does, and the others do behind that. -/
theorem cons_prefix_drop_iff {c : Char} {mark : Text} {place : Nat} :
  c :: mark <+: text.drop place ↔ text[place]? = some c ∧ mark <+: text.drop (place + 1)
  := by
  rw [← List.head?_drop, ← List.tail_drop]
  cases text.drop place with
  | nil => simp
  | cons d behind => simp [List.cons_prefix_cons, eq_comm]

theorem unclosed_iff :
  (∀ place, content[place]? = some '[' →
      ¬ '/' :: name ++ [']'] <+: (content ++ closingMark name ++ rest).drop (place + 1))
    ↔ Text.OnlyAtEnd (closingMark name) content
  := by
  rw [@Text.onlyAtEnd_iff_drop (closingMark name) content rest]
  have here : ∀ place, place < content.length →
      (closingMark name <+: (content ++ closingMark name ++ rest).drop place
        ↔ content[place]? = some '['
          ∧ '/' :: name ++ [']'] <+: (content ++ closingMark name ++ rest).drop (place + 1)) := by
    intro place low
    have char : (content ++ closingMark name ++ rest)[place]? = content[place]? := by
      rw [List.append_assoc, List.getElem?_append_left low]
    rw [← char]
    apply cons_prefix_drop_iff
  constructor
  · intro unclosed place low start
    obtain ⟨bracket, behind⟩ := (here place low).mp start
    apply unclosed place bracket behind
  · intro first place bracket behind
    obtain ⟨low, -⟩ := List.getElem?_eq_some_iff.mp bracket
    apply first place low
    apply (here place low).mpr ⟨bracket, behind⟩

/-- The way to a closing mark is the one that is read. -/
theorem endsContent_iff :
  EndsContent name text content rest
    ↔ Text.splitAtFirst? (closingMark name) text = some (content, rest)
  := by
  rw [Text.splitAtFirst?_eq_some_iff]
  constructor
  · rintro ⟨rfl, unclosed⟩
    exact ⟨rfl, unclosed_iff.mp unclosed⟩
  · rintro ⟨rfl, first⟩
    exact ⟨rfl, unclosed_iff.mpr first⟩

/-! ### Quantifiers -/

/-- The loop over attributes may take the character in front of the text: it is no closing bracket,
nor a slash in front of one. -/
def goesOnAttributes (c : Char) (text : Text) : Bool :=
  c != ']' && (c != '/' || text.head? != some ']')

/-- The loop over a content may take the character in front of the text: no closing mark begins
there. -/
def goesOnContent (name : Text) (c : Char) (text : Text) : Bool :=
  (Text.after? (closingMark name) (c :: text)).isNone

/-- The end of an opening mark behind a cut. -/
def endOpening? : Cut → Option (Text × Bool × Text)
  | (attributes, '/' :: ']' :: rest) => some (attributes, true, rest)
  | (attributes, ']' :: rest) => some (attributes, false, rest)
  | _ => none

/-- The closing mark behind a cut. -/
def endContent? (name : Text) : Cut → Option (Text × Text)
  | (content, text) => (Text.after? (closingMark name) text).map (content, ·)

theorem goesOnAttributes_iff {c : Char} :
  goesOnAttributes c text ↔ c ≠ ']' ∧ (c = '/' → text.head? ≠ some ']')
  := by
  simp only [goesOnAttributes, Bool.and_eq_true, Bool.or_eq_true, bne_iff_ne, ne_eq,
    Decidable.imp_iff_not_or]

theorem goesOnContent_iff {c : Char} :
  goesOnContent name c text ↔ (c = '[' → ¬ '/' :: name ++ [']'] <+: text)
  := by
  rw [goesOnContent, Option.isNone_iff_eq_none, Text.after?_eq_none_iff, closingMark,
    List.cons_append, List.cons_prefix_cons, not_and, eq_comm]

/-- The loop over attributes can stop where the opening mark ends. -/
theorem mem_cuts_goesOnAttributes_iff :
  (attributes, openingEnd closes ++ rest) ∈ cuts goesOnAttributes text
    ↔ EndsOpening text attributes closes rest
  := by
  rw [mem_cuts_iff, ← List.append_assoc]
  simp only [goesOnAttributes_iff, List.head?_drop]
  constructor
  · rintro ⟨whole, each⟩
    constructor
    · apply whole
    · intro close
      obtain ⟨place, here⟩ := List.mem_iff_getElem?.mp close
      apply (each place ']' here).1 rfl
    · intro place here
      apply (each place '/' here).2 rfl
  · rintro ⟨whole, clean, unslashed⟩
    refine ⟨whole, ?_⟩
    intro place c here
    constructor
    · rintro rfl
      apply clean (List.mem_of_getElem? here)
    · rintro rfl
      apply unslashed place here

/-- The loop over a content can stop where a closing mark stands. -/
theorem mem_cuts_goesOnContent_iff :
  (content, closingMark name ++ rest) ∈ cuts (goesOnContent name) text
    ↔ EndsContent name text content rest
  := by
  rw [mem_cuts_iff, ← List.append_assoc]
  simp only [goesOnContent_iff]
  constructor
  · rintro ⟨whole, each⟩
    constructor
    · apply whole
    · intro place here
      apply each place '[' here rfl
  · rintro ⟨whole, unclosed⟩
    refine ⟨whole, ?_⟩
    rintro place c here rfl
    apply unclosed place here

/-- The loop over attributes cannot go on where the opening mark ends. -/
theorem EndsOpening.getLast?_cuts (ends : EndsOpening text attributes closes rest) :
  (cuts goesOnAttributes text).getLast? = some (attributes, openingEnd closes ++ rest)
  := by
  apply Shortcode.getLast?_cuts (mem_cuts_goesOnAttributes_iff.mpr ends)
  intro c later split
  cases closes with
  | true =>
    obtain ⟨rfl, rfl⟩ := List.cons_eq_cons.mp split
    rfl
  | false =>
    obtain ⟨rfl, rfl⟩ := List.cons_eq_cons.mp split
    rfl

/-- The loop over a content cannot go on where a closing mark stands. -/
theorem EndsContent.getLast?_cuts (ends : EndsContent name text content rest) :
  (cuts (goesOnContent name) text).getLast? = some (content, closingMark name ++ rest)
  := by
  apply Shortcode.getLast?_cuts (mem_cuts_goesOnContent_iff.mpr ends)
  intro c later split
  rw [goesOnContent, ← split, Text.after?_append]
  rfl

theorem endOpening?_eq_some_iff {cut : Cut} :
  endOpening? cut = some (attributes, closes, rest)
    ↔ cut = (attributes, openingEnd closes ++ rest)
  := by
  constructor
  · intro ended
    unfold endOpening? at ended
    split at ended
    · simp_all [openingEnd]
    · simp_all [openingEnd]
    · contradiction
  · rintro rfl
    cases closes with
    | true => rfl
    | false => rfl

theorem endContent?_eq_some_iff {cut : Cut} :
  endContent? name cut = some (content, rest) ↔ cut = (content, closingMark name ++ rest)
  := by
  obtain ⟨taken, behind⟩ := cut
  simp only [endContent?, Option.map_eq_some_iff, Text.after?_eq_some_iff, Prod.mk.injEq]
  constructor
  · rintro ⟨rest, rfl, rfl, rfl⟩
    exact ⟨rfl, rfl⟩
  · rintro ⟨rfl, rfl⟩
    exact ⟨rest, rfl, rfl, rfl⟩

/-! ### Reading with quantifiers -/

section

variable (opening content : Quantifier)

/-- Read the rest of an opening mark, with a quantifier for the loop over the attributes. -/
def readOpeningBy (text : Text) : Option (Text × Bool × Text) :=
  (opening.tried (cuts goesOnAttributes text)).findSome? endOpening?

/-- Read a content and its closing mark, with a quantifier for the loop over the content. -/
def readContentBy (name text : Text) : Option (Text × Text) :=
  (content.tried (cuts (goesOnContent name) text)).findSome? (endContent? name)

/-- Read a tag of the given name, behind its opening brackets, with a quantifier for each loop. -/
def readNamedBy (doubledOpen : Bool) (text name : Text) : Option (Tag × Text) := do
  let text ← Text.after? name text
  guard (endsName text)
  let (attributes, closes, text) ← readOpeningBy opening text
  let (body, text) :=
    if closes then (Body.selfClosing, text)
    else
      match readContentBy content name text with
      | some (content, rest) => (.enclosing content, rest)
      | none => (.bare, text)
  let (doubledClose, rest) := readDoubledClose text
  return ({ doubledOpen, name, attributes, body, doubledClose }, rest)

/-- Read the tag at the start of a text, with a quantifier for each loop. -/
def readBy (names : List Text) : Text → Option (Tag × Text)
  | '[' :: text =>
    let doubled :=
      match text with
      | '[' :: text => names.findSome? (readNamedBy opening content true text)
      | _ => none
    doubled.or (names.findSome? (readNamedBy opening content false text))
  | _ => none

/-- The tags of the given names in a text, found with a quantifier for each loop. -/
def scanBy (names : NameSet) (text : Text) : List Occurrence :=
  (locate 0 (Text.pieces (readBy opening content names.toList) text)).filterMap Piece.item?

theorem readOpeningBy_eq :
  readOpeningBy opening = readOpening
  := by
  funext text
  apply opening.findSome?_tried
  · rintro ⟨attributes, closes, rest⟩ found
    have ends := endsOpening_iff.mpr found
    exact ⟨_, ends.getLast?_cuts, endOpening?_eq_some_iff.mpr rfl⟩
  · rintro cut inside ⟨attributes, closes, rest⟩ ended
    rw [endOpening?_eq_some_iff.mp ended] at inside
    apply endsOpening_iff.mp (mem_cuts_goesOnAttributes_iff.mp inside)

theorem readContentBy_eq (name : Text) :
  readContentBy content name = Text.splitAtFirst? (closingMark name)
  := by
  funext text
  apply content.findSome?_tried
  · rintro ⟨content, rest⟩ found
    have ends := endsContent_iff.mpr found
    exact ⟨_, ends.getLast?_cuts, endContent?_eq_some_iff.mpr rfl⟩
  · rintro cut inside ⟨content, rest⟩ ended
    rw [endContent?_eq_some_iff.mp ended] at inside
    apply endsContent_iff.mp (mem_cuts_goesOnContent_iff.mp inside)

theorem readNamedBy_eq :
  readNamedBy opening content = readNamed
  := by
  funext doubledOpen text name
  rw [readNamedBy, readOpeningBy_eq, readContentBy_eq]
  rfl

theorem readBy_eq :
  readBy opening content = read
  := by
  funext names text
  simp only [readBy, readNamedBy_eq]
  rfl

/-- All quantifiers find the same tags. -/
theorem scanBy_eq_scan :
  scanBy opening content = scan
  := by
  funext names text
  rw [scanBy, readBy_eq]
  rfl

end

/-! ### The tags that are found -/

/-- The tags that are found go the one way to the end of the opening mark, and the one way to the
closing mark if there is one. -/
theorem exists_opened_of_mem_scan {names : NameSet} {occurrence : Occurrence}
    (inside : occurrence ∈ scan names text) :
  ∃ opened,
    EndsOpening (text.drop occurrence.nameStop) occurrence.tag.attributes
        occurrence.tag.isSelfClosing opened
      ∧ (occurrence.tag.isSelfClosing → occurrence.tag.content? = none)
      ∧ (occurrence.tag.isSelfClosing = false → ∀ content,
        occurrence.tag.content? = some content
          ↔ ∃ rest, EndsContent occurrence.tag.name opened content rest)
  := by
  obtain ⟨front, rest, whole, place, found⟩ := read_of_mem_scan inside
  have legible := legible_of_read found
  obtain ⟨closes, opened, body, unslashed⟩ := legible.exists_readBody
  have opening :
    EndsOpening (text.drop occurrence.nameStop) occurrence.tag.attributes closes opened
    := by
    rw [endsOpening_iff, readOpening_eq_some_iff, whole, drop_nameStop place, List.append_assoc,
      ← eq_of_readBody body, ← List.append_assoc]
    exact ⟨rfl, legible.clean, unslashed⟩
  use opened
  rcases readBody_eq_iff.mp body with
    ⟨rfl, shape, -⟩ | ⟨rfl, shape, rfl, absent⟩ | ⟨rfl, content, shape, split⟩
  · have closing : occurrence.tag.isSelfClosing = true := by simp [isSelfClosing, shape]
    have empty : occurrence.tag.content? = none := by simp [content?, shape]
    rw [closing, empty]
    exact ⟨opening, fun _ => rfl, by simp⟩
  · have open' : occurrence.tag.isSelfClosing = false := by simp [isSelfClosing, shape]
    have empty : occurrence.tag.content? = none := by simp [content?, shape]
    rw [open', empty]
    refine ⟨opening, by simp, ?_⟩
    rintro - content
    simp only [reduceCtorEq, false_iff, not_exists]
    rintro behind ⟨closed, -⟩
    apply absent
    rw [closed]
    exact ⟨content, behind, rfl⟩
  · have open' : occurrence.tag.isSelfClosing = false := by simp [isSelfClosing, shape]
    have enclosed : occurrence.tag.content? = some content := by simp [content?, shape]
    rw [open', enclosed]
    refine ⟨opening, by simp, ?_⟩
    rintro - content'
    have ends := endsContent_iff.mpr (Text.splitAtFirst?_eq_some_iff.mpr split)
    constructor
    · rintro ⟨⟩
      exact ⟨_, ends⟩
    · rintro ⟨behind, ends'⟩
      have same := (endsContent_iff.mp ends).symm.trans (endsContent_iff.mp ends')
      simpa using congrArg (Option.map Prod.fst) same

/-- At each place of a text there is at most one way to the end of an opening mark, behind which
there is at most one way to the closing mark of a name, and a tag of the name that is found there
has these attributes and this content, and a content if there is any.  So the same tags are found
whatever the quantifiers of the loops over attributes and contents are. -/
theorem unambiguous (text name : Text) (place : Nat) :
  (∀ attributes closes opened attributes' closes' opened',
      EndsOpening (text.drop place) attributes closes opened →
      EndsOpening (text.drop place) attributes' closes' opened' →
      attributes = attributes' ∧ closes = closes' ∧ opened = opened')
    ∧ (∀ attributes opened, EndsOpening (text.drop place) attributes false opened →
      ∀ content rest content' rest', EndsContent name opened content rest →
        EndsContent name opened content' rest' → content = content' ∧ rest = rest')
    ∧ (∀ names, ∀ occurrence ∈ scan names text, occurrence.tag.name = name →
      occurrence.nameStop = place →
      ∃ opened,
        EndsOpening (text.drop place) occurrence.tag.attributes occurrence.tag.isSelfClosing opened
          ∧ (occurrence.tag.isSelfClosing → occurrence.tag.content? = none)
          ∧ (occurrence.tag.isSelfClosing = false → ∀ content,
            occurrence.tag.content? = some content ↔ ∃ rest, EndsContent name opened content rest))
    ∧ ∀ (opening content : Quantifier) (names : NameSet),
      scanBy opening content names text = scan names text
  := by
  refine ⟨?_, ?_, ?_, ?_⟩
  · intro attributes closes opened attributes' closes' opened' ends ends'
    have same := (endsOpening_iff.mp ends).symm.trans (endsOpening_iff.mp ends')
    simpa using same
  · intro _ opened _ content rest content' rest' ends ends'
    have same := (endsContent_iff.mp ends).symm.trans (endsContent_iff.mp ends')
    simpa using same
  · rintro names occurrence inside rfl rfl
    apply exists_opened_of_mem_scan inside
  · intro opening content names
    rw [scanBy_eq_scan]

/-- Two slashes before a bracket, brackets in attributes, and the beginning of a closing mark in a
content, with quantifiers of all three kinds for both loops. -/
theorem unambiguous_of_slashes :
  let names := NameSet.ofList ["a".toList, "a-b".toList]
  let text := "[[a x=[/y//]] [a-b /]z[[/a-b] [a-b [/ ]z[/a[/a-b] [a /".toList
  (scan names text).length = 3
    ∧ scanBy .lazy .possessive names text = scan names text
    ∧ scanBy .greedy .lazy names text = scan names text
    ∧ scanBy .possessive .greedy names text = scan names text
  := by
  intro names text
  have same := (unambiguous text [] 0).2.2.2
  exact ⟨by decide +kernel, same _ _ _, same _ _ _, same _ _ _⟩

end Tag

end Shortcode
