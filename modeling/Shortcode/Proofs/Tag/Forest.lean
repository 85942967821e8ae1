import Mathlib.Data.List.Basic
import Shortcode.Proofs.Tag.Written

/-!
# Forests of tags

A forest stands for a text in which tags are properly nested: texts, tags that close themselves,
and tags with a forest inside, beside each other.  It is well formed if no enclosing tag stands
inside one of the same name, and its attributes and texts are plain.  The tags that are read in
the written form of a well-formed forest are those that are not inside others (`items_render`):
each of them is closed by its own closing mark, since none of the closing marks inside is its
own (`freeOf_closingMark_render`).
-/

namespace Shortcode

/-- Texts and tags beside each other, with forests inside the enclosing tags. -/
inductive Forest where
  | nil
  | text (plain : Text) (others : Forest)
  | closed (name attributes : Text) (others : Forest)
  | enclosing (name attributes : Text) (inner others : Forest)
  deriving Repr

namespace Forest

/-- The written form of a forest. -/
def render : Forest → Text
  | nil => []
  | text plain others => plain ++ others.render
  | closed name attributes others => '[' :: name ++ attributes ++ ['/', ']'] ++ others.render
  | enclosing name attributes inner others =>
    '[' :: name ++ attributes ++ [']'] ++ inner.render ++ ['[', '/'] ++ name ++ [']']
      ++ others.render

/-- The tags that are not inside others, in order. -/
def tags : Forest → List Tag
  | nil => []
  | text _ others => others.tags
  | closed name attributes others => .closed name attributes :: others.tags
  | enclosing name attributes inner others =>
    .enclosing name attributes inner.render :: others.tags

/-- The names of the enclosing tags at any depth. -/
def enclosers : Forest → List Text
  | nil => []
  | text _ others => others.enclosers
  | closed _ _ others => others.enclosers
  | enclosing name _ inner others => name :: inner.enclosers ++ others.enclosers

/-- Texts have no brackets, attributes are plain, the names are among the given ones, and no
enclosing tag has one of the same name inside. -/
inductive WellFormed (names : NameSet) : Forest → Prop where
  | nil : WellFormed names nil
  | text {plain : Text} {others : Forest} (unopened : '[' ∉ plain) (unclosed : ']' ∉ plain)
    (beside : WellFormed names others) :
    WellFormed names (text plain others)
  | closed {name attributes : Text} {others : Forest} (named : name ∈ names)
    (set : PlainAttributes attributes) (beside : WellFormed names others) :
    WellFormed names (closed name attributes others)
  | enclosing {name attributes : Text} {inner others : Forest} (named : name ∈ names)
    (set : PlainAttributes attributes) (alone : name ∉ inner.enclosers)
    (inside : WellFormed names inner) (beside : WellFormed names others) :
    WellFormed names (enclosing name attributes inner others)

end Forest

/-! ### Closing marks -/

/-- A closing mark does not begin at an opening mark. -/
theorem freeOf_closingMark_opening {name other rest : Text} (nonempty : other ≠ [])
    (plain : ∀ c ∈ other, isDelimiter c = false) (unopened : '[' ∉ rest) :
  Text.FreeOf (closingMark name) ('[' :: (other ++ rest))
  := by
  rw [closingMark_eq]
  apply Text.freeOf_cons_of_not_mem
  · rw [List.mem_append, not_or]
    exact ⟨not_mem_of_plain plain (by decide), unopened⟩
  · intro behind begins
    obtain ⟨c, other, rfl⟩ := List.exists_cons_of_ne_nil nonempty
    rw [List.cons_prefix_cons, List.cons_append, List.cons_append, List.cons_prefix_cons] at begins
    have slash := plain c List.mem_cons_self
    rw [← begins.2.1] at slash
    contradiction

/-- A closing mark does not begin at one of another name. -/
theorem freeOf_closingMark_closingMark {name other : Text} (ne : other ≠ name)
    (plain : ∀ c ∈ name, isDelimiter c = false) (plain' : ∀ c ∈ other, isDelimiter c = false) :
  Text.FreeOf (closingMark name) (closingMark other)
  := by
  rw [closingMark_eq, closingMark_eq]
  apply Text.freeOf_cons_of_not_mem
  · have := @not_mem_of_plain other plain' '[' (by decide)
    simpa using this
  · rintro behind ⟨rest, same⟩
    simp only [List.cons_append, List.cons.injEq, true_and, List.append_assoc, List.nil_append]
      at same
    have unclosed := @not_mem_of_plain name plain ']' (by decide)
    have unclosed' := @not_mem_of_plain other plain' ']' (by decide)
    apply ne
    apply (Text.eq_of_append_cons_eq unclosed' unclosed same.symm).1

namespace Forest

variable {registered : NameSet}

/-- Inside a well-formed forest, no closing mark of a name begins that no tag in it encloses
anything by. -/
theorem freeOf_closingMark_render {forest : Forest} (wellFormed : forest.WellFormed registered)
    (plain : ∀ name ∈ registered, name ≠ [] ∧ ∀ c ∈ name, isDelimiter c = false) {name : Text}
    (named : name ∈ registered) (absent : name ∉ forest.enclosers) :
  Text.FreeOf (closingMark name) forest.render
  := by
  induction wellFormed with
  | nil => apply Text.freeOf_nil
  | text unopened _ _ beside =>
    apply (Text.freeOf_of_not_mem unopened _).append
    apply beside absent
  | @closed other attributes others named' set _ beside =>
    have opening : Text.FreeOf (closingMark name)
        ('[' :: (other ++ (attributes ++ ['/', ']']))) := by
      apply freeOf_closingMark_opening (plain other named').1 (plain other named').2
      simpa using set.unopened
    simpa [render] using opening.append (beside absent)
  | @enclosing other attributes inner others named' set _ _ _ inside beside =>
    simp only [enclosers, List.cons_append, List.mem_cons, List.mem_append, not_or] at absent
    have opening : Text.FreeOf (closingMark name) ('[' :: (other ++ (attributes ++ [']']))) := by
      apply freeOf_closingMark_opening (plain other named').1 (plain other named').2
      simpa using set.unopened
    have closing : Text.FreeOf (closingMark name) (closingMark other) :=
      freeOf_closingMark_closingMark (Ne.symm absent.1) (plain name named).2 (plain other named').2
    have whole := (opening.append (inside absent.2.1)).append (closing.append (beside absent.2.2))
    simpa [render, closingMark] using whole

/-! ### Reading a forest -/

theorem render_closed (name attributes : Text) (others : Forest) :
  (closed name attributes others).render = (Tag.closed name attributes).render ++ others.render
  := by simp [render, Tag.render_closed]

theorem render_enclosing (name attributes : Text) (inner others : Forest) :
  (enclosing name attributes inner others).render
    = (Tag.enclosing name attributes inner.render).render ++ others.render
  := by simp [render, Tag.render_enclosing, closingMark]

/-- A written forest does not start with a closing bracket. -/
theorem head?_render_ne {forest : Forest} (wellFormed : forest.WellFormed registered) :
  forest.render.head? ≠ some ']'
  := by
  induction wellFormed with
  | nil => simp [render]
  | text _ unclosed _ beside => apply Text.head?_append_ne unclosed beside
  | closed => simp [render]
  | enclosing => simp [render]

theorem name_mem_of_mem_tags {forest : Forest} (wellFormed : forest.WellFormed registered) :
  ∀ tag ∈ forest.tags, tag.name ∈ registered
  := by
  induction wellFormed with
  | nil =>
    intro tag inside
    contradiction
  | text _ _ _ beside => apply beside
  | closed named _ _ beside => exact List.forall_mem_cons.mpr ⟨named, beside⟩
  | enclosing named _ _ _ _ _ beside => exact List.forall_mem_cons.mpr ⟨named, beside⟩

theorem isEscaped_of_mem_tags (forest : Forest) :
  ∀ tag ∈ forest.tags, tag.isEscaped = false
  := by
  induction forest with
  | nil =>
    intro tag inside
    contradiction
  | text _ _ beside => apply beside
  | closed _ _ _ beside => exact List.forall_mem_cons.mpr ⟨rfl, beside⟩
  | enclosing _ _ _ _ _ beside => exact List.forall_mem_cons.mpr ⟨rfl, beside⟩

/-- The tags of a forest that are not inside others are named in its written form. -/
theorem namedIn_render {forest : Forest} (wellFormed : forest.WellFormed registered) :
  ∀ tag ∈ forest.tags, NamedIn tag.name forest.render
  := by
  induction wellFormed with
  | nil =>
    intro tag inside
    contradiction
  | text _ _ _ beside =>
    intro tag inside
    apply (beside tag inside).append_left
  | closed _ set _ beside =>
    rw [render_closed, tags, List.forall_mem_cons]
    constructor
    · apply Tag.namedIn_render rfl set.delimiting
    · intro tag inside
      apply (beside tag inside).append_left
  | enclosing _ set _ _ _ _ beside =>
    rw [render_enclosing, tags, List.forall_mem_cons]
    constructor
    · apply Tag.namedIn_render rfl set.delimiting
    · intro tag inside
      apply (beside tag inside).append_left

/-- Reading the written form of a well-formed forest gives the tags that are not inside others,
if they are among the names looked for, which do not hide them. -/
theorem items_render {forest : Forest} (wellFormed : forest.WellFormed registered)
    (plain : ∀ name ∈ registered, name ≠ [] ∧ ∀ c ∈ name, isDelimiter c = false)
    {names : NameSet} (sub : ∀ name ∈ names, name ∈ registered)
    (named : ∀ tag ∈ forest.tags, tag.name ∈ names)
    (unhidden : ∀ tag ∈ forest.tags, ∀ other ∈ names, ¬ Hides other tag.name) :
  Text.items (Tag.read names.toList) forest.render = forest.tags
  := by
  have plain' : ∀ name ∈ names, ∀ c ∈ name, isDelimiter c = false := by
    intro name inside
    apply (plain name (sub name inside)).2
  induction wellFormed with
  | nil => rfl
  | text unopened _ _ beside =>
    rw [render, Tag.items_append_of_no_bracket unopened]
    apply beside named unhidden
  | @closed name attributes others known set wellFormed beside =>
    rw [tags, List.forall_mem_cons] at named unhidden
    have legible : (Tag.closed name attributes).Legible others.render :=
      Tag.legible_closed set.delimiting.endsName set.unclosed (head?_render_ne wellFormed)
    have found := Tag.read_of_unhidden rfl (plain name known).1 plain' legible named.1
      set.delimiting unhidden.1
    rw [render_closed, Text.items_of_read (Tag.render_ne_nil _) found, beside named.2 unhidden.2]
    rfl
  | @enclosing name attributes inner others known set alone inside wellFormed _ beside =>
    rw [tags, List.forall_mem_cons] at named unhidden
    have first := (freeOf_closingMark_render inside plain known alone).onlyAtEnd
    have legible : (Tag.enclosing name attributes inner.render).Legible others.render :=
      Tag.legible_enclosing set.delimiting.endsName set.unclosed set.unslashed first
        (head?_render_ne wellFormed)
    have found := Tag.read_of_unhidden rfl (plain name known).1 plain' legible named.1
      set.delimiting unhidden.1
    rw [render_enclosing, Text.items_of_read (Tag.render_ne_nil _) found, beside named.2 unhidden.2]
    rfl

end Forest

end Shortcode
