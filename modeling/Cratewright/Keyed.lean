/-!
# Collections with one item per key

A `Keyed key` holds items in ascending order of their key, no two with the same key. The order is part of the type, so
two collections with the same items are equal. `put` replaces an item of the same key.
-/

namespace Cratewright

/-- Items in strictly ascending order of their key. -/
structure Keyed {α κ : Type} [Ord κ] (key : α → κ) where
  items : List α
  ascending : items.Pairwise fun earlier later => compare (key earlier) (key later) = .lt

namespace Keyed

variable {α κ : Type} [Ord κ] {key : α → κ}

instance [DecidableEq α] : DecidableEq (Keyed key) := fun one other =>
  if same : one.items = other.items then
    .isTrue (by cases one; cases other; simp_all)
  else .isFalse fun equal => same (congrArg items equal)

/-- The collection without items. -/
def empty : Keyed key := ⟨[], .nil⟩

instance : EmptyCollection (Keyed key) := ⟨empty⟩
instance : Inhabited (Keyed key) := ⟨empty⟩

/-- The item stored under a key. -/
def get? (collection : Keyed key) (wanted : κ) : Option α :=
  collection.items.find? fun item => compare (key item) wanted == .eq

/-- Whether an item is stored under a key. -/
def contains (collection : Keyed key) (wanted : κ) : Bool := (collection.get? wanted).isSome

/-- The number of items. -/
def size (collection : Keyed key) : Nat := collection.items.length

/-- The keys, ascending. -/
def keys (collection : Keyed key) : List κ := collection.items.map key

/-- Places an item into an ascending list, in the place of one with the same key. -/
def place (key : α → κ) (item : α) : List α → List α
  | [] => [item]
  | first :: rest =>
    match compare (key item) (key first) with
    | .lt => item :: first :: rest
    | .eq => item :: rest
    | .gt => first :: place key item rest

/-- Placing an item brings that item only. -/
theorem mem_of_mem_place {item found : α} {items : List α} (mem : found ∈ place key item items) :
    found = item ∨ found ∈ items := by
  induction items with
  | nil => simpa [place] using mem
  | cons first rest ih =>
    rw [place] at mem
    split at mem <;> simp only [List.mem_cons] at mem ⊢
    · exact mem
    · rcases mem with rfl | mem
      · exact .inl rfl
      · exact .inr (.inr mem)
    · rcases mem with rfl | mem
      · exact .inr (.inl rfl)
      · exact (ih mem).imp_right .inr

variable [Std.TransOrd κ]

/-- Placing an item keeps the keys strictly ascending. -/
theorem pairwise_place (item : α) {items : List α}
    (ascending : items.Pairwise fun earlier later => compare (key earlier) (key later) = .lt) :
    (place key item items).Pairwise fun earlier later => compare (key earlier) (key later) = .lt := by
  induction items with
  | nil => simp [place]
  | cons first rest ih =>
    have ⟨below, tail⟩ := List.pairwise_cons.mp ascending
    rw [place]
    split
    · rename_i before
      refine .cons (fun later mem => ?_) ascending
      rcases List.mem_cons.mp mem with rfl | mem
      · exact before
      · exact Std.TransCmp.lt_trans before (below later mem)
    · rename_i same
      exact .cons (fun later mem => Std.TransCmp.lt_of_eq_of_lt same (below later mem)) tail
    · rename_i after
      refine .cons (fun later mem => ?_) (ih tail)
      rcases mem_of_mem_place mem with rfl | mem
      · exact Std.OrientedCmp.gt_iff_lt.mp after
      · exact below later mem

/-- Stores an item under its key. -/
def put (collection : Keyed key) (item : α) : Keyed key :=
  ⟨place key item collection.items, pairwise_place item collection.ascending⟩

/-- The collection of the items of a list; of two with the same key the later one stays. -/
def ofList (items : List α) : Keyed key := items.foldl put empty

/-- Storing an item brings that item only. -/
theorem mem_of_mem_put {collection : Keyed key} {item found : α}
    (mem : found ∈ (collection.put item).items) : found = item ∨ found ∈ collection.items :=
  mem_of_mem_place mem

end Keyed

end Cratewright
