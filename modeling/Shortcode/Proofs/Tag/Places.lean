import Mathlib.Tactic.Common
import Shortcode.Proofs.Tag.Legible
import Shortcode.Proofs.Text.Readers
import Shortcode.Tag.Scan

/-!
# Places of tags

Where do the tags of a scan stand?  Each occurrence is what is read at its place
(`read_of_mem_scan`), the occurrences do not overlap (`pairwise_scan`), and at a place outside
of all of them nothing is read (`read_eq_none_of_outside`).  All three are shown of the scan
of a text from a place on, `Tag.scanFrom`, by induction along the run of the reader.
-/

namespace Shortcode

/-- The part of the text from one place to another. -/
def Text.slice (start stop : Nat) (text : Text) : Text := (text.take stop).drop start

theorem Text.slice_append (front middle rest : Text) :
  (front ++ middle ++ rest).slice front.length (front.length + middle.length) = middle
  := by
  rw [slice, List.take_left' (by simp), List.drop_left]

namespace Tag

variable {names : NameSet}

/-- The tags of the given names in a text that begins at the given place. -/
def scanFrom (names : NameSet) (start : Nat) (text : Text) : List Occurrence :=
  (locate start (Text.pieces (read names.toList) text)).filterMap Piece.item?

/-- A tag takes up a nonempty beginning of the text it is read from. -/
theorem consumes_read (names : List Text) :
  Text.Consumes (read names)
  := Text.consumes_of_lossless (fun _ _ _ => render_append_of_read) render_ne_nil

theorem scanFrom_nil (start : Nat) :
  scanFrom names start [] = []
  := rfl

theorem scanFrom_of_skip {c : Char} {text : Text} (declined : read names.toList (c :: text) = none)
    (start : Nat) :
  scanFrom names start (c :: text) = scanFrom names (start + 1) text
  := by
  rw [scanFrom, Text.pieces_of_skip declined]
  rfl

theorem scanFrom_of_read {tag : Tag} {rest : Text}
    (found : read names.toList (tag.render ++ rest) = some (tag, rest)) (start : Nat) :
  scanFrom names start (tag.render ++ rest)
    = ⟨tag, start⟩ :: scanFrom names (start + tag.render.length) rest
  := by
  rw [scanFrom, Text.pieces_of_read tag.render_ne_nil found]
  rfl

/-- Induction along the scan of a text. -/
theorem scan_induction {motive : Text → Prop}
    (nil : motive [])
    (skip : ∀ c text, read names.toList (c :: text) = none → motive text → motive (c :: text))
    (item : ∀ tag rest, read names.toList (tag.render ++ rest) = some (tag, rest) → motive rest →
      motive (tag.render ++ rest))
    (text : Text) :
  motive text
  := by
  induction text using Text.pieces_induction (consumes_read names.toList) with
  | nil => apply nil
  | skip c text declined ih => apply skip c text declined ih
  | item front tag rest _ found ih =>
    have whole := render_append_of_read found
    rw [whole] at found ⊢
    apply item tag rest found ih

/-- Each occurrence is what is read at its place. -/
theorem read_of_mem_scanFrom {start : Nat} {text : Text} {occurrence : Occurrence}
    (inside : occurrence ∈ scanFrom names start text) :
  ∃ front rest, text = front ++ occurrence.text ++ rest
    ∧ occurrence.start = start + front.length
    ∧ read names.toList (occurrence.text ++ rest) = some (occurrence.tag, rest)
  := by
  induction text using @scan_induction names generalizing start with
  | nil => contradiction
  | skip c text declined ih =>
    rw [scanFrom_of_skip declined] at inside
    obtain ⟨front, rest, rfl, place, found⟩ := ih inside
    use c :: front, rest, rfl
    refine ⟨?_, found⟩
    rw [place, List.length_cons]
    omega
  | item tag rest found ih =>
    rw [scanFrom_of_read found] at inside
    rcases List.mem_cons.mp inside with rfl | later
    · use [], rest, rfl, rfl
      apply found
    · obtain ⟨front, rest, rfl, place, found⟩ := ih later
      use tag.render ++ front, rest
      refine ⟨by simp, ?_, found⟩
      rw [place, List.length_append]
      omega

/-- Each occurrence ends before the next one starts. -/
theorem pairwise_scanFrom (names : NameSet) (start : Nat) (text : Text) :
  (scanFrom names start text).Pairwise fun occurrence next => occurrence.stop ≤ next.start
  := by
  induction text using @scan_induction names generalizing start with
  | nil => exact .nil
  | skip c text declined ih =>
    rw [scanFrom_of_skip declined]
    apply ih
  | item tag rest found ih =>
    rw [scanFrom_of_read found]
    apply List.pairwise_cons.mpr
    refine ⟨?_, ih _⟩
    intro next later
    obtain ⟨front, _, _, place, _⟩ := read_of_mem_scanFrom later
    rw [place]
    apply Nat.le_add_right

/-- Outside of all occurrences nothing is read. -/
theorem read_eq_none_of_outside_scanFrom {start : Nat} {text front rest : Text}
    (whole : text = front ++ rest) (nonempty : rest ≠ [])
    (outside : ∀ occurrence ∈ scanFrom names start text,
      start + front.length < occurrence.start ∨ occurrence.stop ≤ start + front.length) :
  read names.toList rest = none
  := by
  induction text using @scan_induction names generalizing start front with
  | nil =>
    obtain ⟨-, rfl⟩ := List.append_eq_nil_iff.mp whole.symm
    contradiction
  | skip c text declined ih =>
    rw [scanFrom_of_skip declined] at outside
    cases front with
    | nil =>
      rw [List.nil_append] at whole
      rwa [← whole]
    | cons d front =>
      simp only [List.cons_append, List.cons.injEq] at whole
      apply ih whole.2
      intro occurrence inside
      have := outside occurrence inside
      rw [List.length_cons] at this
      omega
  | item tag behind found ih =>
    rw [scanFrom_of_read found] at outside
    have past := outside _ List.mem_cons_self
    simp only [Occurrence.stop, Occurrence.text] at past
    have long : tag.render.length ≤ front.length := by omega
    obtain ⟨front, rfl⟩ : tag.render <+: front := by
      apply List.prefix_of_prefix_length_le (List.prefix_append _ behind) _ long
      rw [whole]
      apply List.prefix_append
    rw [List.append_assoc] at whole
    apply ih (List.append_cancel_left whole)
    intro occurrence inside
    have := outside occurrence (List.mem_cons_of_mem _ inside)
    rw [List.length_append] at this
    omega

/-! ### The scan of a whole text -/

/-- The tags of a scan, without their places. -/
theorem map_tag_scan (names : NameSet) (text : Text) :
  (scan names text).map Occurrence.tag = Text.items (read names.toList) text
  := by
  have from' : ∀ start,
      (scanFrom names start text).map Occurrence.tag = Text.items (read names.toList) text := by
    induction text using @scan_induction names with
    | nil => intro _; rfl
    | skip c text declined ih =>
      intro start
      rw [scanFrom_of_skip declined, Text.items_of_skip declined, ih]
    | item tag rest found ih =>
      intro start
      rw [scanFrom_of_read found, Text.items_of_read tag.render_ne_nil found, List.map_cons, ih]
  apply from' 0

/-- Each occurrence of a scan is what is read at its place. -/
theorem read_of_mem_scan {text : Text} {occurrence : Occurrence}
    (inside : occurrence ∈ scan names text) :
  ∃ front rest, text = front ++ occurrence.text ++ rest
    ∧ occurrence.start = front.length
    ∧ read names.toList (occurrence.text ++ rest) = some (occurrence.tag, rest)
  := by
  obtain ⟨front, rest, whole, place, found⟩ := read_of_mem_scanFrom inside
  rw [Nat.zero_add] at place
  use front, rest

/-- Each occurrence of a scan ends before the next one starts. -/
theorem pairwise_scan (names : NameSet) (text : Text) :
  (scan names text).Pairwise fun occurrence next => occurrence.stop ≤ next.start
  := pairwise_scanFrom names 0 text

/-- Outside of all occurrences of a scan nothing is read. -/
theorem read_eq_none_of_outside {front rest : Text} (nonempty : rest ≠ [])
    (outside : ∀ occurrence ∈ scan names (front ++ rest),
      front.length < occurrence.start ∨ occurrence.stop ≤ front.length) :
  read names.toList rest = none
  := by
  apply read_eq_none_of_outside_scanFrom rfl nonempty
  intro occurrence inside
  rw [Nat.zero_add]
  apply outside occurrence inside

/-- Of two occurrences of a scan, one ends before the other one starts. -/
theorem eq_or_apart_of_mem_scan {text : Text} {occurrence other : Occurrence}
    (inside : occurrence ∈ scan names text) (inside' : other ∈ scan names text) :
  occurrence = other ∨ occurrence.stop ≤ other.start ∨ other.stop ≤ occurrence.start
  := by
  obtain ⟨i, low, rfl⟩ := List.getElem_of_mem inside
  obtain ⟨j, high, rfl⟩ := List.getElem_of_mem inside'
  have apart := List.pairwise_iff_getElem.mp (pairwise_scan names text)
  rcases Nat.lt_trichotomy i j with before | rfl | behind
  · exact .inr (.inl (apart i j low high before))
  · exact .inl rfl
  · exact .inr (.inr (apart j i high low behind))

end Tag

end Shortcode
