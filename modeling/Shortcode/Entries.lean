import Shortcode.Text.Basic

/-!
# Entries

Entries are pairs of a key and a value, in the order in which the keys were first given.  A
value put under a key takes the place of the one that is there.  The lemmas say what each
operation does to the look-up, and that no operation makes a key occur twice.
-/

namespace Shortcode

/-- Pairs of a key and a value, in the order in which the keys were first given. -/
abbrev Entries (α : Type) : Type := List (Text × α)

namespace Entries

variable {α : Type}

/-- The keys in order. -/
def keys (entries : Entries α) : List Text := entries.map (·.1)

/-- The value under a key. -/
def get? (key : Text) : Entries α → Option α
  | [] => none
  | (other, value) :: rest => if key = other then some value else get? key rest

/-- There is an entry under the key. -/
def has (key : Text) (entries : Entries α) : Bool := (entries.get? key).isSome

/-- Put a value under a key: in place of the value there, or behind all entries. -/
def put (key : Text) (value : α) : Entries α → Entries α
  | [] => [(key, value)]
  | (other, old) :: rest =>
    if key = other then (other, value) :: rest else (other, old) :: put key value rest

/-- Put a value under a key that has none yet. -/
def putNew (key : Text) (value : α) (entries : Entries α) : Entries α :=
  if entries.has key then entries else entries ++ [(key, value)]

/-- The entries without the one under the key. -/
def erase (key : Text) (entries : Entries α) : Entries α := entries.filter (·.1 ≠ key)

/-- The entries that arise from putting pairs one after the other. -/
def putAll (pairs : List (Text × α)) (entries : Entries α) : Entries α :=
  pairs.foldl (fun entries (key, value) => entries.put key value) entries

/-- The entries of pairs that may repeat a key: the first pair fixes its place and the last
one its value. -/
def ofPairs (pairs : List (Text × α)) : Entries α := putAll pairs []

/-! ### Look-up -/

/-- A key is looked up with success exactly if it is among the keys. -/
theorem has_iff_mem_keys {key : Text} {entries : Entries α} :
  entries.has key ↔ key ∈ entries.keys
  := by
  induction entries with
  | nil => simp [has, get?, keys]
  | cons entry rest ih =>
    obtain ⟨other, value⟩ := entry
    simp only [has, get?, keys, List.map_cons, List.mem_cons]
    split
    · simp [*]
    · rename_i ne
      simp only [ne, false_or]
      exact ih

/-- Under the key that a value was put under, the value is found. -/
@[simp]
theorem get?_put_self (key : Text) (value : α) (entries : Entries α) :
  (entries.put key value).get? key = some value
  := by
  induction entries with
  | nil => simp [put, get?]
  | cons entry rest ih =>
    simp only [put]
    split <;> simp [get?, *]

/-- Under any other key, what was there before is found. -/
theorem get?_put_of_ne {key other : Text} (ne : other ≠ key) (value : α)
    (entries : Entries α) :
  (entries.put key value).get? other = entries.get? other
  := by
  induction entries with
  | nil => simp [put, get?, ne]
  | cons entry rest ih =>
    simp only [put]
    split
    · rename_i same
      simp [get?, ← same, ne]
    · simp only [get?]
      rw [ih]

/-- Under an erased key nothing is found. -/
@[simp]
theorem get?_erase_self (key : Text) (entries : Entries α) :
  (entries.erase key).get? key = none
  := by
  induction entries with
  | nil => rfl
  | cons entry rest ih =>
    simp only [erase] at ih ⊢
    rw [List.filter_cons]
    split
    · rename_i other
      have : ¬ key = entry.1 := fun same => by simp [same] at other
      simp only [get?, this, if_false]
      exact ih
    · exact ih

/-- Erasing a key does not change what is found under any other one. -/
theorem get?_erase_of_ne {key other : Text} (ne : other ≠ key) (entries : Entries α) :
  (entries.erase key).get? other = entries.get? other
  := by
  induction entries with
  | nil => rfl
  | cons entry rest ih =>
    simp only [erase] at ih ⊢
    rw [List.filter_cons]
    split
    · simp only [get?]
      rw [ih]
    · rename_i same
      have : entry.1 = key := by simpa using same
      rw [ih]
      simp [get?, this, ne]

/-! ### Distinct keys -/

theorem mem_keys_put {key other : Text} {value : α} {entries : Entries α} :
  other ∈ (entries.put key value).keys ↔ other = key ∨ other ∈ entries.keys
  := by
  rw [← has_iff_mem_keys, ← has_iff_mem_keys]
  by_cases same : other = key
  · simp [has, same]
  · simp [has, get?_put_of_ne same, same]

/-- Putting a value keeps the keys distinct. -/
theorem nodup_keys_put {entries : Entries α} (distinct : entries.keys.Nodup) (key : Text)
    (value : α) :
  (entries.put key value).keys.Nodup
  := by
  induction entries with
  | nil => simp [put, keys]
  | cons entry rest ih =>
    obtain ⟨other, old⟩ := entry
    have ⟨fresh, tail⟩ := List.nodup_cons.mp distinct
    simp only [put]
    split
    · exact List.nodup_cons.mpr ⟨fresh, tail⟩
    · rename_i ne
      refine List.nodup_cons.mpr ⟨?_, ih tail⟩
      intro inside
      rcases mem_keys_put.mp inside with same | inside
      · exact ne same.symm
      · exact fresh inside

/-- Erasing a key keeps the keys distinct. -/
theorem nodup_keys_erase {entries : Entries α} (distinct : entries.keys.Nodup) (key : Text) :
  (entries.erase key).keys.Nodup
  := List.Nodup.sublist (List.filter_sublist.map _) distinct

end Entries

end Shortcode
