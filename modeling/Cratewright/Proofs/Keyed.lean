import Cratewright.Crate
import Mathlib.Data.List.Pairwise
import Mathlib.Data.List.Sort

/-!
# Membership in keyed collections

A keyed collection is determined by its items, and an item by its key. `mem_put` says what storing an item does to the
items, so later modules argue about membership and never about the order of a list.
-/

namespace Cratewright.Keyed

variable {α κ : Type} [Ord κ] [Std.TransOrd κ] {key : α → κ}

/-- A key is not below itself. -/
theorem ne_of_compare_lt {one other : κ} (below : compare one other = .lt) : one ≠ other := by
  rintro rfl
  simp at below

/-- Two items of a collection with the same key are the same item. -/
theorem eq_of_key_eq {collection : Keyed key} {one other : α} (mem : one ∈ collection.items)
    (memOther : other ∈ collection.items) (same : key one = key other) : one = other := by
  by_contra different
  have apart : collection.items.Pairwise fun earlier later => key earlier ≠ key later :=
    collection.ascending.imp ne_of_compare_lt
  have symmetric : Std.Symm fun earlier later : α => key earlier ≠ key later := ⟨fun _ _ => Ne.symm⟩
  exact apart.forall mem memOther different same

/-- Collections with the same items are equal. -/
theorem ext_mem {one other : Keyed key} (same : ∀ item, item ∈ one.items ↔ item ∈ other.items) : one = other := by
  have antisymmetric : Std.Antisymm fun earlier later : α => compare (key earlier) (key later) = .lt :=
    ⟨fun _ _ before after => absurd after (Std.OrientedCmp.not_lt_of_lt before)⟩
  have irreflexive : Std.Irrefl fun earlier later : α => compare (key earlier) (key later) = .lt :=
    ⟨fun item before => by simp at before⟩
  have items : one.items = other.items := one.ascending.eq_of_mem_iff other.ascending same
  cases one
  cases other
  cases items
  rfl

variable [Std.LawfulEqOrd κ]

/-- Placing an item into an ascending list replaces the one with its key. -/
theorem mem_place_iff {item found : α} {items : List α}
    (ascending : items.Pairwise fun earlier later => compare (key earlier) (key later) = .lt) :
    found ∈ place key item items ↔ found = item ∨ found ∈ items ∧ key found ≠ key item := by
  induction items with
  | nil => simp [place]
  | cons first rest ih =>
    obtain ⟨below, tail⟩ := List.pairwise_cons.mp ascending
    have apart : ∀ later ∈ rest, key first ≠ key later := fun later mem => ne_of_compare_lt (below later mem)
    rw [place]
    split
    · rename_i before
      have others : ∀ later ∈ first :: rest, key item ≠ key later := by
        intro later mem
        rcases List.mem_cons.mp mem with rfl | mem
        · exact ne_of_compare_lt before
        · exact ne_of_compare_lt (Std.TransCmp.lt_trans before (below later mem))
      grind
    · rename_i same
      have equal : key item = key first := Std.LawfulEqOrd.eq_of_compare same
      grind
    · rename_i after
      have different : key first ≠ key item := ne_of_compare_lt (Std.OrientedCmp.gt_iff_lt.mp after)
      grind

/-- Storing an item replaces the one with its key and leaves every other item. -/
theorem mem_put {collection : Keyed key} {item found : α} :
    found ∈ (collection.put item).items ↔ found = item ∨ found ∈ collection.items ∧ key found ≠ key item :=
  mem_place_iff collection.ascending

/-- The item that is found under a key is the one that has it. -/
theorem get?_eq_some_iff {collection : Keyed key} {wanted : κ} {item : α} :
    collection.get? wanted = some item ↔ item ∈ collection.items ∧ key item = wanted := by
  have found_of : ∀ {found}, collection.get? wanted = some found → found ∈ collection.items ∧ key found = wanted := by
    intro found stored
    exact ⟨List.mem_of_find?_eq_some stored, by simpa using List.find?_some stored⟩
  constructor
  · exact found_of
  · rintro ⟨mem, rfl⟩
    cases stored : collection.get? (key item) with
    | none =>
      have absent := List.find?_eq_none.mp stored item mem
      simp at absent
    | some found =>
      obtain ⟨memFound, same⟩ := found_of stored
      rw [eq_of_key_eq memFound mem same]

/-- A key is stored exactly when an item has it. -/
theorem contains_iff {collection : Keyed key} {wanted : κ} :
    collection.contains wanted = true ↔ ∃ item ∈ collection.items, key item = wanted := by
  rw [contains, Option.isSome_iff_exists]
  exact exists_congr fun _ => get?_eq_some_iff

/-- Storing an item that is stored changes nothing. -/
theorem put_of_mem {collection : Keyed key} {item : α} (mem : item ∈ collection.items) :
    collection.put item = collection := by
  apply ext_mem
  intro found
  rw [mem_put]
  constructor
  · rintro (rfl | ⟨stored, -⟩)
    · exact mem
    · exact stored
  · intro stored
    by_cases same : key found = key item
    · exact .inl (eq_of_key_eq stored mem same)
    · exact .inr ⟨stored, same⟩

end Cratewright.Keyed
