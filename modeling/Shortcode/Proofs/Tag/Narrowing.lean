import Shortcode.Proofs.Tag.Places

/-!
# Reading with fewer names

Names of which no tag is found can be left out of a scan: if the names of all tags in a text
are among the chosen ones, then the chosen ones find the same tags at the same places
(`scan_filter_eq_iff`).  The order in which names are tried does not matter to this, since a
name that was tried in vain is tried in vain with fewer names as well.

Other names can be left out as well, if no tag that is found without them overlaps one of theirs:
then just their tags are missing (`scan_filter_eq_filter_iff`).
-/

namespace Shortcode

namespace Tag

variable {names : NameSet} {keep : Text → Bool}

/-- What is found first in a list is found first among the kept members, if it is kept. -/
theorem findSome?_filter {α β : Type} {keep : α → Bool} {find : α → Option β} {members : List α}
    {found : β} (first : members.findSome? find = some found)
    (kept : ∀ a ∈ members, find a = some found → keep a) :
  (members.filter keep).findSome? find = some found
  := by
  obtain ⟨front, a, rest, rfl, here, before⟩ := List.findSome?_eq_some_iff.mp first
  have keeps := kept a (by simp) here
  rw [List.filter_append, List.filter_cons_of_pos keeps]
  apply List.findSome?_eq_some_iff.mpr
  refine ⟨front.filter keep, a, rest.filter keep, rfl, here, ?_⟩
  intro other inside
  apply before other (List.mem_filter.mp inside).1

theorem readNamed_filter {doubledOpen : Bool} {text : Text} {members : List Text}
    {found : Tag × Text} (first : members.findSome? (readNamed doubledOpen text) = some found)
    (kept : keep found.1.name) :
  (members.filter keep).findSome? (readNamed doubledOpen text) = some found
  := by
  apply findSome?_filter first
  intro name _ here
  obtain ⟨-, rfl, -⟩ := readNamed_eq_some_iff.mp here
  apply kept

theorem findSome?_filter_eq_none {α β : Type} {keep : α → Bool} {find : α → Option β}
    {members : List α} (none_found : members.findSome? find = none) :
  (members.filter keep).findSome? find = none
  := by
  rw [List.findSome?_eq_none_iff] at none_found ⊢
  intro a inside
  apply none_found a (List.mem_filter.mp inside).1

/-- Where nothing is read, nothing is read with fewer names. -/
theorem read_filter_of_none {text : Text} (declined : read names.toList text = none) :
  read (names.filter keep).toList text = none
  := by
  cases text with
  | nil => rfl
  | cons c text =>
    by_cases bracket : c = '['
    · subst bracket
      rw [read_eq_none_iff] at declined ⊢
      intro name inside
      apply declined name (List.mem_filter.mp inside).1
    · unfold read
      split
      · simp_all
      · rfl

/-- A tag is still read if its name is kept. -/
theorem read_filter_of_some {text : Text} {found : Tag × Text}
    (accepted : read names.toList text = some found) (kept : keep found.1.name) :
  read (names.filter keep).toList text = some found
  := by
  unfold read at accepted ⊢
  split at accepted
  · simp only [readBehind, Option.or_eq_some_iff] at accepted ⊢
    rcases accepted with doubled | ⟨undoubled, single⟩
    · left
      split at doubled
      · apply readNamed_filter doubled kept
      · contradiction
    · right
      refine ⟨?_, readNamed_filter single kept⟩
      split at undoubled
      · apply findSome?_filter_eq_none undoubled
      · rfl
  · contradiction

/-- If the names of all tags of a text are kept, the text is cut as before. -/
theorem pieces_read_filter {text : Text}
    (kept : ∀ tag ∈ Text.items (read names.toList) text, keep tag.name) :
  Text.pieces (read (names.filter keep).toList) text = Text.pieces (read names.toList) text
  := by
  induction text using @scan_induction names with
  | nil => rfl
  | skip c text declined ih =>
    rw [Text.items_of_skip declined] at kept
    rw [Text.pieces_of_skip declined, Text.pieces_of_skip (read_filter_of_none declined), ih kept]
  | item tag rest found ih =>
    rw [Text.items_of_read tag.render_ne_nil found, List.forall_mem_cons] at kept
    rw [Text.pieces_of_read tag.render_ne_nil found,
      Text.pieces_of_read tag.render_ne_nil (read_filter_of_some found kept.1), ih kept.2]

theorem scan_filter_of_kept {text : Text}
    (kept : ∀ occurrence ∈ scan names text, keep occurrence.tag.name) :
  scan (names.filter keep) text = scan names text
  := by
  have tags : ∀ tag ∈ Text.items (read names.toList) text, keep tag.name := by
    rw [← map_tag_scan]
    intro tag inside
    obtain ⟨occurrence, found, rfl⟩ := List.mem_map.mp inside
    apply kept occurrence found
  rw [scan, scan, pieces, pieces, pieces_read_filter tags]

/-- The name of a tag of a scan is one of those scanned for. -/
theorem name_mem_of_mem_scan {text : Text} {occurrence : Occurrence}
    (inside : occurrence ∈ scan names text) :
  occurrence.tag.name ∈ names
  := by
  obtain ⟨_, _, _, _, found⟩ := read_of_mem_scan inside
  apply name_mem_of_read found

/-- Without names there are no tags. -/
theorem scan_eq_nil_of_empty (empty : ∀ name, name ∉ names) (text : Text) :
  scan names text = []
  := by
  apply List.eq_nil_iff_forall_not_mem.mpr
  intro occurrence inside
  apply empty _ (name_mem_of_mem_scan inside)

/-- A scan with fewer names finds the same tags exactly if it keeps the names of all of
them. -/
theorem scan_filter_eq_iff {text : Text} :
  scan (names.filter keep) text = scan names text
    ↔ ∀ occurrence ∈ scan names text, keep occurrence.tag.name
  := by
  constructor
  · intro same occurrence inside
    rw [← same] at inside
    exact (NameSet.mem_filter.mp (name_mem_of_mem_scan inside)).2
  · apply scan_filter_of_kept

/-! ### Tags of names that are left out -/

/-- Of the two occurrences, one ends before the other one starts. -/
def Apart (occurrence other : Occurrence) : Prop :=
  occurrence.stop ≤ other.start ∨ other.stop ≤ occurrence.start

theorem start_le_of_mem_scanFrom {start : Nat} {text : Text} {occurrence : Occurrence}
    (inside : occurrence ∈ scanFrom names start text) :
  start ≤ occurrence.start
  := by
  obtain ⟨front, -, -, place, -⟩ := read_of_mem_scanFrom inside
  omega

theorem start_lt_stop (occurrence : Occurrence) :
  occurrence.start < occurrence.stop
  := by
  have nonempty := List.length_pos_iff.mpr occurrence.tag.render_ne_nil
  rw [Occurrence.stop, Occurrence.text]
  omega

/-- A beginning of the text in which no occurrence starts is passed over. -/
theorem scanFrom_append_of_le {start : Nat} {front rest : Text}
    (behind : ∀ occurrence ∈ scanFrom names start (front ++ rest),
      start + front.length ≤ occurrence.start) :
  scanFrom names start (front ++ rest) = scanFrom names (start + front.length) rest
  := by
  induction front generalizing start with
  | nil => rfl
  | cons c front ih =>
    cases found : read names.toList (c :: (front ++ rest)) with
    | none =>
      rw [List.cons_append, scanFrom_of_skip found] at behind ⊢
      rw [ih, List.length_cons]
      · congr 1
        omega
      · intro occurrence inside
        have := behind occurrence inside
        rw [List.length_cons] at this
        omega
    | some result =>
      obtain ⟨tag, rest'⟩ := result
      have whole := render_append_of_read found
      rw [List.cons_append, whole] at behind
      rw [whole] at found
      rw [scanFrom_of_read found, List.forall_mem_cons, List.length_cons] at behind
      have := behind.1
      simp only at this
      omega

/-- If none of the tags that are found with fewer names overlaps a tag of a name that is left
out, the scan passes over the tags of those names. -/
theorem scanFrom_filter_of_apart {start : Nat} {text : Text}
    (apart : ∀ occurrence ∈ scanFrom (names.filter keep) start text,
      ∀ other ∈ scanFrom names start text, keep other.tag.name ∨ Apart occurrence other) :
  scanFrom (names.filter keep) start text
    = (scanFrom names start text).filter fun occurrence => keep occurrence.tag.name
  := by
  induction text using @scan_induction names generalizing start with
  | nil => rfl
  | skip c text declined ih =>
    rw [scanFrom_of_skip declined, scanFrom_of_skip (read_filter_of_none declined)] at apart ⊢
    apply ih apart
  | item tag rest found ih =>
    rw [scanFrom_of_read found] at apart ⊢
    by_cases kept : keep tag.name
    · rw [scanFrom_of_read (read_filter_of_some found kept)] at apart ⊢
      rw [List.filter_cons, if_pos kept, ih]
      intro occurrence inside other inside'
      apply apart occurrence (List.mem_cons_of_mem _ inside) other (List.mem_cons_of_mem _ inside')
    · -- Nothing that is found starts before the end of the tag.
      have past : scanFrom (names.filter keep) start (tag.render ++ rest)
          = scanFrom (names.filter keep) (start + tag.render.length) rest := by
        apply scanFrom_append_of_le
        intro occurrence inside
        have first := start_le_of_mem_scanFrom inside
        have long := start_lt_stop occurrence
        rcases apart occurrence inside _ List.mem_cons_self with kept' | before | behind
        · contradiction
        · simp only at before
          omega
        · apply behind
      rw [past] at apart ⊢
      rw [List.filter_cons, if_neg kept, ih]
      intro occurrence inside other inside'
      apply apart occurrence inside other (List.mem_cons_of_mem _ inside')

/-- A scan with fewer names finds just the tags of those names that the whole scan finds, exactly
if none of the tags that it finds overlaps a tag of a name that is left out. -/
theorem scan_filter_eq_filter_iff {text : Text} :
  scan (names.filter keep) text
      = (scan names text).filter (fun occurrence => keep occurrence.tag.name)
    ↔ ∀ occurrence ∈ scan (names.filter keep) text, ∀ other ∈ scan names text,
      keep other.tag.name ∨ Apart occurrence other
  := by
  constructor
  · intro same occurrence inside other inside'
    rw [same, List.mem_filter] at inside
    rcases eq_or_apart_of_mem_scan inside.1 inside' with rfl | apart
    · exact .inl inside.2
    · exact .inr apart
  · apply scanFrom_filter_of_apart

end Tag

end Shortcode
