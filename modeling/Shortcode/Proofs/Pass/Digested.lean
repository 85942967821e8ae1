import Shortcode.Handler.Run
import Shortcode.Proofs.Pass.Settled

/-!
# Digests and the filter of attributes

A text that is a single tag is expanded to the output of its handler (`runOn_expand_render`).
The handler of the digest shortcode lets the filter of the current configuration adjust the named
attributes of its tag, but positional values do not come before the filter.  So a filter that
prescribes an algorithm is followed exactly where the attributes have names, or the first value
comes to the same digest (`Behaviour.digests_as_prescribed_iff`).
-/

namespace Shortcode

/-! ### Digests by name -/

/-- The null character is in no name of an algorithm. -/
theorem Digest.Algorithm.not_mem_of_named? {name : Text} {algorithm : Digest.Algorithm}
    (known : named? name = some algorithm) :
  Char.ofNat 0 ∉ name
  := by
  have proper : ∀ algorithm ∈ all, Char.ofNat 0 ∉ algorithm.name
      ∧ ∀ spelling ∈ algorithm.spellings, Char.ofNat 0 ∉ spelling := by decide
  obtain ⟨plain, plain'⟩ := proper algorithm (List.mem_of_find?_eq_some known)
  have answers := List.find?_some known
  rw [answersTo, Bool.or_eq_true, beq_iff_eq, List.contains_iff_mem] at answers
  rcases answers with rfl | spelled
  · apply plain
  · intro inside
    apply plain' _ spelled
    apply List.mem_map.mpr
    use Char.ofNat 0, inside
    rfl

/-- No hexadecimal digit is an ampersand. -/
theorem Digest.not_mem_hex (bytes : List UInt8) :
  '&' ∉ hex bytes
  := by
  have digits : ∀ n < 16, Nat.digitChar n ≠ '&' := by decide
  intro inside
  obtain ⟨byte, -, written⟩ := List.mem_flatMap.mp inside
  have bound := byte.toNat_lt
  rw [List.mem_cons, List.mem_singleton] at written
  rcases written with high | low
  · apply digits (byte.toNat / 16) (by omega) high.symm
  · apply digits (byte.toNat % 16) (by omega) low.symm

/-- An algorithm that is known by its name gives a digest. -/
theorem digestOf_of_named {name : Text} {algorithm : Digest.Algorithm}
    (known : Digest.Algorithm.named? name = some algorithm) (text : Text) :
  digestOf name text = .ok (Digest.hex (algorithm.digest text.utf8))
  := by
  have proper := Digest.Algorithm.not_mem_of_named? known
  rw [digestOf, if_neg (by simpa using proper), known]

/-- A digest contains no ampersand. -/
theorem not_mem_of_digestOf {name text digest : Text} (given : digestOf name text = .ok digest) :
  '&' ∉ digest
  := by
  unfold digestOf at given
  split at given
  · contradiction
  split at given
  · obtain rfl := Except.ok.inj given
    apply Digest.not_mem_hex
  · split at given
    · contradiction
    · contradiction

/-- The digest of a text by the algorithm that a value chooses. -/
def digestBy (choice : Datum) (text : Text) : Except Fault Text :=
  digestNameOf choice >>= fun name => digestOf name text

theorem not_mem_of_digestBy {choice : Datum} {text digest : Text}
    (given : digestBy choice text = .ok digest) :
  '&' ∉ digest
  := by
  unfold digestBy at given
  cases chosen : digestNameOf choice with
  | error fault =>
    rw [chosen] at given
    contradiction
  | ok name =>
    rw [chosen] at given
    apply not_mem_of_digestOf given

theorem digestBy_of_named {name : Text} {algorithm : Digest.Algorithm}
    (known : Digest.Algorithm.named? (lower name) = some algorithm) (text : Text) :
  digestBy (.text name) text = .ok (Digest.hex (algorithm.digest text.utf8))
  := by
  have given : digestNameOf (.text name) = .ok (lower name) := by
    cases name with
    | nil =>
      have unknown : Digest.Algorithm.named? (lower []) = none := by decide
      rw [unknown] at known
      contradiction
    | cons c name => rfl
  rw [digestBy, given]
  apply digestOf_of_named known

/-! ### The filter of attributes -/

variable {H : Type} {K : HookKind → Type} {σ : Type}

namespace Hooks

/-- The hook gives the merged attributes with the value under the key. -/
def Prescribes (hooks : Hooks H K σ) (hook : K .attributesFilter) (key : Text) (value : Datum) :
    Prop :=
  ∀ merged defaults attributes shortcode world, ∃ after,
    (hooks.attributesFilter hook merged defaults attributes shortcode).runOn world
      = (.ok (merged.put key value), after)

variable {hooks : Hooks H K σ} {world : World H K σ}

/-- The digest of a tag, given what chooses its algorithm. -/
theorem runOn_digestTag {attributes : Option Attributes} {choice : Datum} {after : World H K σ}
    {tag : Text} (chosen : (hooks.digestValue attributes tag).runOn world = (.ok choice, after))
    (content : Option Text) :
  (hooks.digestTag attributes content tag).runOn world
    = (digestBy choice (content.getD []), after)
  := by
  rw [digestTag, Action.runOn_bind, chosen]
  dsimp only
  rw [Action.runOn_bind, Action.runOn_lift, digestBy]
  cases digestNameOf choice with
  | error fault => rfl
  | ok name => rfl

/-- Where values have no names, the first one chooses the algorithm, and no hook is called. -/
theorem runOn_digestTag_of_positional (values : List Text) (content : Option Text) (tag : Text) :
  (hooks.digestTag (some (.positional values)) content tag).runOn world
    = (digestBy (.text (values.headD [])) (content.getD []), world)
  := runOn_digestTag rfl content

/-- Where values have names, the algorithm is the one that the filter prescribes. -/
theorem exists_runOn_digestTag_of_named {hook : K .attributesFilter} {choice : Datum}
    (set : world.config.attributesFilter = some hook)
    (prescribes : hooks.Prescribes hook digestKey choice) (entries : Entries Text)
    (content : Option Text) {tag : Text} (named : tag ≠ []) :
  ∃ after, (hooks.digestTag (some (.named entries)) content tag).runOn world
    = (digestBy choice (content.getD []), after)
  := by
  let defaults : Entries Datum := [(digestKey, .text defaultDigest)]
  obtain ⟨after, run⟩ := prescribes (merged defaults (some (.named entries))) defaults
    (some (.named entries)) tag world
  use after
  apply runOn_digestTag
  have merge : (hooks.merge defaults (some (.named entries)) tag).runOn world
      = (.ok ((merged defaults (some (.named entries))).put digestKey choice), after) := by
    rw [merge, if_neg (by simpa using named), Action.runOn_bind, Action.runOn_get]
    simp only [set]
    apply run
  change (hooks.merge defaults (some (.named entries)) tag >>= _).runOn world = _
  rw [Action.runOn_bind, merge]
  dsimp only
  rw [Entries.get?_put_self]
  rfl

end Hooks

/-! ### A tag on its own -/

/-- The text that takes the place of a tag that is all of its text. -/
theorem assemble_of_read {names : NameSet} {tag : Tag}
    (found : Tag.read names.toList (tag.render ++ []) = some (tag, [])) (text : Text) :
  assemble names tag.render [text] = restoreBrackets text
  := by
  have alone := Tag.items_render found
  rw [← Tag.map_tag_scan] at alone
  have enough : [text].length = (Tag.scan names tag.render).length := by
    rw [← List.length_map Occurrence.tag, alone]
    rfl
  have filled := Tag.fill_pieces_of_read found text []
  rw [List.append_nil] at filled
  rw [assemble, ← Tag.fill_pieces enough, filled]
  congr 1
  apply List.append_nil

namespace Behaviour

variable {behaviour : Behaviour H K σ} {world : World H K σ}

/-- Without hooks around handlers, a text that is a single tag is expanded to the output of its
handler between the additional brackets of the tag. -/
theorem runOn_expand_render (unhooked : world.config.Unhooked) {tag : Tag} {handler : H}
    {given : Except Fault Datum} {after : World H K σ}
    (found : Tag.read (world.registry.sought tag.render).toList (tag.render ++ [])
      = some (tag, []))
    (unescaped : tag.isEscaped = false) (bound : world.registry.callable tag.name = .ok handler)
    (run : (behaviour.handle handler (.parse tag.attributes) tag.content? tag.name).runOn world
      = (given, after)) :
  (behaviour.expand tag.render).runOn world
    = (given.map fun result => restoreBrackets (tag.opener ++ result.inserted ++ tag.closer), after)
  := by
  have busy : ∃ name, name ∈ world.registry.sought tag.render :=
    ⟨tag.name, Tag.name_mem_of_read found⟩
  obtain ⟨calls, outcome, behind, course, traced⟩ :=
    @exists_live_course_expand H K σ behaviour tag.render world busy
  have alone := Tag.items_render found
  rw [← Tag.map_tag_scan] at alone
  obtain ⟨occurrence, scanned, same⟩ := List.map_eq_singleton_iff.mp alone
  rw [scanned] at course
  obtain ⟨replaced, replaces, rfl⟩ := exists_replaces_of_course course
  rw [← same] at unescaped bound
  obtain ⟨-, given', run', rfl⟩ := handled_of_replaces unhooked replaces unescaped bound
  rw [Occurrence.parsed, same, run] at run'
  obtain ⟨rfl, rfl⟩ := Prod.mk.inj run'
  rw [traced.run]
  cases given with
  | error fault => rfl
  | ok result => simp only [Except.map, assemble_of_read found, Occurrence.output, same]

/-! ### Prescribed digests -/

/-- The handler is the one of the digest shortcode. -/
def Digests (behaviour : Behaviour H K σ) (handler : H) : Prop :=
  ∀ attributes content name, behaviour.handle handler attributes content name
    = behaviour.digestTag (some attributes) content name >>= fun digest => pure (.text digest)

/-- The digest shortcode is registered under its name, no hook stands around handlers, and a filter of
attributes prescribes what chooses the algorithm. -/
structure PrescribesDigest (behaviour : Behaviour H K σ) (world : World H K σ) (choice : Datum) :
    Prop where
  unhooked : world.config.Unhooked
  bound : ∃ handler, world.registry.callable digestTagName = .ok handler ∧ behaviour.Digests handler
  filtered : ∃ hook, world.config.attributesFilter = some hook
    ∧ behaviour.Prescribes hook digestKey choice

end Behaviour

/-- The written form of the tag is a text with one tag of the digest shortcode, which does not stand
for itself. -/
structure Tag.AsksForDigest (tag : Tag) : Prop where
  name_eq : tag.name = digestTagName
  legible : tag.Legible []
  unescaped : tag.isEscaped = false
  named : NamedIn tag.name tag.render

theorem Tag.asksForDigest_enclosing {attributes content : Text} (set : PlainAttributes attributes)
    (without : '[' ∉ content) :
  (enclosing digestTagName attributes content).AsksForDigest
  := by
  constructor
  · rfl
  · apply legible_enclosing set.delimiting.endsName set.unclosed set.unslashed
    · apply (Text.freeOf_of_not_mem without _).onlyAtEnd
    · simp
  · rfl
  · rw [← List.append_nil (render _)]
    apply namedIn_render rfl set.delimiting

namespace Behaviour

variable {behaviour : Behaviour H K σ} {world : World H K σ} {tag : Tag} {choice : Datum}

/-- A tag of the digest shortcode is read in its written form, whatever else is registered. -/
theorem read_of_asks {registry : Registry H} {handler : H} (asks : tag.AsksForDigest)
    (bound : registry.callable tag.name = .ok handler) :
  Tag.read (registry.sought tag.render).toList (tag.render ++ []) = some (tag, [])
  := by
  have continues : ∀ c ∈ digestTagName, isNameChar c := List.all_eq_true.mp (by decide)
  have nonempty : digestTagName ≠ [] := by decide
  rw [← asks.name_eq] at continues nonempty
  apply Tag.read_of_continues continues nonempty asks.legible
  apply NameSet.mem_inter.mpr
  constructor
  · apply Registry.mem_names_of_callable bound
  · apply mem_candidates_iff.mpr
    use nonempty, fun c inside => isDelimiter_of_isNameChar (continues c inside)
    apply asks.named

/-- A tag of the digest shortcode is expanded to the digest that its handler gives. -/
theorem runOn_expand_of_asks (asks : tag.AsksForDigest) {choice' : Datum} {after : World H K σ}
    (prescribes : behaviour.PrescribesDigest world choice)
    (run : (behaviour.digestTag (some (.parse tag.attributes)) tag.content? tag.name).runOn world
      = (digestBy choice' (tag.content?.getD []), after)) :
  (behaviour.expand tag.render).runOn world
    = ((digestBy choice' (tag.content?.getD [])).map (tag.opener ++ · ++ tag.closer), after)
  := by
  obtain ⟨handler, bound, digests⟩ := prescribes.bound
  rw [← asks.name_eq] at bound
  have handled : (behaviour.handle handler (.parse tag.attributes) tag.content? tag.name).runOn
      world = ((digestBy choice' (tag.content?.getD [])).map .text, after) := by
    rw [digests, Action.runOn_bind, run]
    cases digestBy choice' (tag.content?.getD []) with
    | error fault => rfl
    | ok digest => rfl
  rw [runOn_expand_render prescribes.unhooked (read_of_asks asks bound) asks.unescaped bound
    handled]
  cases given : digestBy choice' (tag.content?.getD []) with
  | error fault => rfl
  | ok digest =>
    have without : '&' ∉ tag.opener ++ digest ++ tag.closer := by
      have plain := not_mem_of_digestBy given
      rw [Tag.opener, Tag.closer]
      split <;> split <;> simpa using plain
    simp only [Except.map, Datum.inserted, Datum.shown, restoreBrackets_of_unreferenced without]

/-- With a filter that prescribes an algorithm, a tag whose values have no names is expanded to the
digest that the first value chooses, and no hook is called.  The digest is the prescribed one
exactly if the values have names or the first one comes to the same. -/
theorem digests_as_prescribed_iff (asks : tag.AsksForDigest) {name : Text}
    (prescribes : behaviour.PrescribesDigest world (.text name)) {algorithm : Digest.Algorithm}
    (known : Digest.Algorithm.named? (lower name) = some algorithm) :
  let content := tag.content?.getD []
  let digest := Digest.hex (algorithm.digest content.utf8)
  (∀ values, Attributes.parse tag.attributes = .positional values →
      (behaviour.expand tag.render).runOn world
        = ((digestBy (.text (values.headD [])) content).map (tag.opener ++ · ++ tag.closer), world))
    ∧ ((∃ after, (behaviour.expand tag.render).runOn world
          = (.ok (tag.opener ++ digest ++ tag.closer), after))
      ↔ ∀ values, Attributes.parse tag.attributes = .positional values →
        digestBy (.text (values.headD [])) content = .ok digest)
  := by
  intro content digest
  have positional : ∀ values, Attributes.parse tag.attributes = .positional values →
      (behaviour.expand tag.render).runOn world
        = ((digestBy (.text (values.headD [])) content).map (tag.opener ++ · ++ tag.closer),
          world) := by
    intro values parsed
    apply runOn_expand_of_asks asks prescribes
    rw [parsed]
    apply Hooks.runOn_digestTag_of_positional
  use positional
  constructor
  · rintro ⟨after, run⟩ values parsed
    rw [positional values parsed] at run
    obtain ⟨given, -⟩ := Prod.mk.inj run
    cases chosen : digestBy (.text (values.headD [])) content with
    | error fault =>
      rw [chosen] at given
      contradiction
    | ok other =>
      rw [chosen] at given
      simpa using Except.ok.inj given
  · intro same
    cases parsed : Attributes.parse tag.attributes with
    | positional values =>
      use world
      rw [positional values parsed, same values parsed]
      rfl
    | named entries =>
      obtain ⟨hook, set, filters⟩ := prescribes.filtered
      have nonempty : tag.name ≠ [] := by
        rw [asks.name_eq]
        decide
      obtain ⟨after, run⟩ := Hooks.exists_runOn_digestTag_of_named set filters entries tag.content?
        nonempty
      use after
      rw [runOn_expand_of_asks asks prescribes (by rw [parsed, run]), digestBy_of_named known]
      rfl

/-! ### Where a filter prescribes an algorithm -/

/-- The digest shortcode is registered, and a filter prescribes an algorithm. -/
def prescribing (name : Text) : Workspace where
  registry := ⟨[(digestTagName, .handler ⟨0, .digest⟩)]⟩
  config := { attributesFilter := some (.overwrite [(digestKey, .text name)]) }
  rest := {}

theorem prescribesDigest_prescribing (nested : Text → Action Workspace Text) (name : Text) :
  (Script.behaviour nested).PrescribesDigest (prescribing name) (.text name)
  := by
  constructor
  · exact ⟨rfl, rfl⟩
  · use ⟨0, .digest⟩
    constructor
    · rfl
    · intro _ _ _
      rfl
  · use .overwrite [(digestKey, .text name)]
    constructor
    · rfl
    · intro _ _ _ _ _
      refine ⟨_, rfl⟩

/-- A tag that gives an algorithm by name, another one than the filter prescribes. -/
theorem digests_as_prescribed_iff_of_other :
  let behaviour := Script.behaviour pure
  let world := prescribing "SHA-1".toList
  let tag : Tag := .enclosing digestTagName " x algo='md5'".toList "abc".toList
  let digest := Digest.hex (Digest.Algorithm.sha1.digest (Text.utf8 "abc".toList))
  tag.AsksForDigest
    ∧ behaviour.PrescribesDigest world (.text "SHA-1".toList)
    ∧ Digest.Algorithm.named? (lower "SHA-1".toList) = some .sha1
    ∧ ∃ after, (behaviour.expand tag.render).runOn world = (.ok digest, after)
  := by
  intro behaviour world tag digest
  have asks : tag.AsksForDigest := by
    apply Tag.asksForDigest_enclosing
    · constructor <;> decide
    · decide
  have prescribes := prescribesDigest_prescribing pure "SHA-1".toList
  have known : Digest.Algorithm.named? (lower "SHA-1".toList) = some .sha1 := by decide +kernel
  have followed := (digests_as_prescribed_iff asks prescribes known).2
  use asks, prescribes, known
  have written : tag.opener ++ digest ++ tag.closer = digest := List.append_nil digest
  rw [← written]
  apply followed.mpr
  intro values parsed
  have named : Attributes.parse tag.attributes = .named [("algo".toList, "md5".toList)] := by
    decide +kernel
  rw [named] at parsed
  contradiction

/-- A tag without attributes is expanded to another digest than the filter prescribes. -/
theorem not_digested_as_prescribed :
  let behaviour := Script.behaviour pure
  let world := prescribing "sha1".toList
  let tag : Tag := .enclosing digestTagName [] "abc".toList
  tag.AsksForDigest
    ∧ behaviour.PrescribesDigest world (.text "sha1".toList)
    ∧ Digest.Algorithm.named? (lower "sha1".toList) = some .sha1
    ∧ ((behaviour.expand tag.render).runOn world).1
      ≠ .ok (Digest.hex (Digest.Algorithm.sha1.digest (Text.utf8 "abc".toList)))
  := by
  intro behaviour world tag
  have asks : tag.AsksForDigest := by
    apply Tag.asksForDigest_enclosing
    · constructor <;> decide
    · decide
  use asks, prescribesDigest_prescribing pure "sha1".toList
  constructor
  · decide +kernel
  · decide +kernel

end Behaviour

end Shortcode
