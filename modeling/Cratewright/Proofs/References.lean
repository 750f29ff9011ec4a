import Cratewright.Proofs.Program.Filling

/-!
# Members of references

Going from a reference to an item below it folds its own name, if it has one, into the module path. So the full path of
a reference to an item below an item, and so on, is that of the first reference and then the items in order; whether it
is local depends on the first reference alone, provided that its module path does not end inside a separator. Main
statement: such a reference resolves to that path. A module path that is empty is found out only as long as nothing has
been folded into it: below a named reference without a module path, or two items below an unnamed one, the path starts
with separators and resolves.
-/

namespace Cratewright

/-- Items in order, each behind a separator. -/
def below : List String → String
  | [] => ""
  | item :: rest => "::" ++ item ++ below rest

/-- Items in two parts lie below one another, part by part. -/
theorem below_append (first second : List String) : below (first ++ second) = below first ++ below second := by
  induction first with
  | nil => simp [below]
  | cons item rest ih => simp [below, ih, String.append_assoc]

/-- Only where there are no items, nothing lies below. -/
theorem below_eq_empty_iff {items : List String} : below items = "" ↔ items = [] := by
  cases items with
  | nil => simp [below]
  | cons item rest => simp [below]

namespace Reference

/-- The reference to an item below an item, and so on, below the path of a reference. -/
def members (reference : Reference) (items : List String) : Reference := items.foldl member reference

/-- The module path with the name. -/
def path (reference : Reference) : String := reference.modulePath ++ below reference.name.toList

/-- The members of a reference lie under its path. -/
theorem modulePath_member (reference : Reference) (item : String) :
    (reference.member item).modulePath = reference.path := by
  rw [member, path]
  cases reference.name <;> simp [below, String.append_assoc]

/-- A chain of members adds its items to the path, in order. -/
theorem path_members (reference : Reference) (items : List String) :
    (reference.members items).path = reference.path ++ below items := by
  induction items generalizing reference with
  | nil => simp [members, below]
  | cons item rest ih =>
    have step : (reference.member item).path = reference.path ++ below [item] := by
      rw [path, modulePath_member]
      rfl
    have together : below (item :: rest) = below [item] ++ below rest := below_append [item] rest
    rw [members, List.foldl_cons, together, ← String.append_assoc, ← step]
    exact ih _

/-- Members keep the dependency of the reference. -/
theorem dependency_members (reference : Reference) (items : List String) :
    (reference.members items).dependency = reference.dependency := by
  induction items generalizing reference with
  | nil => rfl
  | cons item rest ih => exact ih (reference.member item)

/-- A reference to items below another one names the last of them, in the path of those before. -/
theorem members_concat (reference : Reference) (items : List String) (last : String) :
    reference.members (items ++ [last]) =
      ⟨some last, reference.dependency, reference.modulePath ++ below (reference.name.toList ++ items)⟩ := by
  have folded : reference.modulePath ++ below (reference.name.toList ++ items) = (reference.members items).path := by
    rw [path_members, path, below_append, String.append_assoc]
  have step : reference.members (items ++ [last]) = (reference.members items).member last := List.foldl_concat ..
  rw [step, folded, ← modulePath_member _ last, ← dependency_members reference items]
  rfl

end Reference

/-- A path begins with a first segment if that is all of it or a separator follows, also with more segments behind it:
the separator in front of these is not the end of one in the path. -/
theorem prefix_separated_iff {root path rest : List Char} (plain : ':' ∉ root) (ends : path.getLast? ≠ some ':') :
    root ++ [':', ':'] <+: path ++ ':' :: ':' :: rest ↔ path = root ∨ root ++ [':', ':'] <+: path := by
  -- A path that leaves the root early does so with the separator's colon, which the root has not got.
  induction root generalizing path with
  | nil =>
    match path with
    | [] => simp
    | [first] =>
      have other : ':' ≠ first := by simpa [eq_comm] using ends
      simp [List.cons_prefix_cons, other]
    | first :: second :: later => simp [List.cons_prefix_cons]
  | cons c root ih =>
    rw [List.mem_cons, not_or] at plain
    match path with
    | [] => simp [List.cons_prefix_cons, Ne.symm plain.1]
    | first :: later =>
      have endsLater : later.getLast? ≠ some ':' := by
        cases later with
        | nil => simp
        | cons second others => simpa using ends
      rw [List.cons_append, List.cons_append, List.cons_prefix_cons, List.cons_prefix_cons, List.cons.injEq,
        ih plain.2 endsLater, and_or_left, eq_comm (a := c)]

namespace Reference

variable {reference : Reference}

/-- A reference is local exactly if its module is the local root or lies under it. -/
theorem isLocal_iff :
    reference.isLocal = true ↔
      reference.modulePath.toList = localRoot.toList ∨
        localRoot.toList ++ [':', ':'] <+: reference.modulePath.toList := by
  have separated : (localRoot ++ "::").toList = localRoot.toList ++ [':', ':'] := rfl
  rw [isLocal, Bool.or_eq_true, beq_iff_eq, List.isPrefixOf_iff_prefix, separated, String.toList_inj]

/-- A reference is local or not whatever is below it, unless its module path ends inside a separator. -/
theorem isLocal_below (ends : reference.modulePath.toList.getLast? ≠ some ':') (names : List String)
    (name : Option String) (dependency : Option Dependency) :
    isLocal ⟨name, dependency, reference.modulePath ++ below names⟩ = reference.isLocal := by
  rw [Bool.eq_iff_iff, isLocal_iff, isLocal_iff]
  cases names with
  | nil => simp [below]
  | cons first rest =>
    have spread : (reference.modulePath ++ below (first :: rest)).toList =
        reference.modulePath.toList ++ ':' :: ':' :: (first ++ below rest).toList := by
      simp [below]
    have longer : reference.modulePath.toList ++ ':' :: ':' :: (first ++ below rest).toList ≠ localRoot.toList := by
      intro same
      have colon : ':' ∈ localRoot.toList := by
        rw [← same]
        simp
      exact absurd colon (by decide)
    simp only [spread, longer, false_or]
    exact prefix_separated_iff (by decide) ends

/-- The full path is the path of the reference, behind a separator unless it is local. -/
theorem fullPath_eq : reference.fullPath = (if reference.isLocal then "" else "::") ++ reference.path := by
  rw [fullPath, path]
  cases reference.isLocal <;> cases reference.name <;> simp [below, String.append_assoc]

/-- The full path of a reference, and whatever is below it, starts with the generated crate if the reference is local
and with a separator if it is not. -/
theorem starts_fullPath (reference : Reference) (rest : String) :
    (localRoot.toList <+: (reference.fullPath ++ rest).toList ↔ reference.isLocal = true) ∧
      ("::".toList <+: (reference.fullPath ++ rest).toList ↔ reference.isLocal = false) := by
  have colons : "::".toList = [':', ':'] := rfl
  have root : localRoot.toList = ['c', 'r', 'a', 't', 'e'] := rfl
  rw [fullPath_eq]
  cases place : reference.isLocal with
  | false => simp [colons, root, List.cons_prefix_cons]
  | true =>
    have inside : localRoot.toList <+: reference.modulePath.toList := by
      rcases isLocal_iff.mp place with whole | starts
      · exact ⟨[], by rw [whole, List.append_nil]⟩
      · exact (List.prefix_append _ _).trans starts
    obtain ⟨later, starts⟩ := inside
    have text : ("" ++ reference.path ++ rest).toList =
        localRoot.toList ++ (later ++ (below reference.name.toList ++ rest).toList) := by
      simp [path, ← starts]
    rw [if_pos rfl, text]
    simp [colons, root, List.cons_prefix_cons]

/-- A reference cannot be resolved exactly if it has no module path, and then the failure names it. -/
theorem resolve_eq_error_iff {current : String} {failure : CodegenError} :
    reference.resolve current = .error failure ↔
      reference.modulePath = "" ∧ failure = .emptyModulePath (reference.name.getD "") := by
  rw [resolve]
  by_cases empty : reference.modulePath = ""
  · rw [if_pos (by simp [empty])]
    constructor
    · intro failed
      cases failed
      exact ⟨empty, rfl⟩
    · rintro ⟨-, rfl⟩
      rfl
  · rw [if_neg (by simpa using empty)]
    split <;> simp [empty]

/-- Some failure meets a reference exactly if it has no module path. -/
theorem exists_refused_iff {current : String} :
    (∃ refused, reference.resolve current = .error refused) ↔ reference.modulePath = "" := by
  simp only [resolve_eq_error_iff, exists_and_left, exists_eq, and_true]

/-- An empty module path is found out as long as no more than one name has been given: below it nothing is folded in. -/
theorem members_eq_error_iff {current : String} {items : List String} {failure : CodegenError} :
    (reference.members items).resolve current = .error failure ↔
      (reference.modulePath = "" ∧ (reference.name.toList ++ items).length ≤ 1) ∧
        failure = .emptyModulePath (((reference.name.toList ++ items).getLast?).getD "") := by
  rcases List.eq_nil_or_concat items with rfl | ⟨before, last, rfl⟩
  · have itself : reference.members [] = reference := rfl
    rw [itself, resolve_eq_error_iff, List.append_nil]
    cases reference.name <;> simp
  · have counted : (reference.name.toList ++ (before ++ [last])).length ≤ 1 ↔ reference.name.toList ++ before = [] := by
      rw [← List.append_assoc, List.length_append, ← List.length_eq_zero_iff, List.length_singleton]
      omega
    rw [List.concat_eq_append, members_concat, resolve_eq_error_iff, counted, String.append_eq_empty_iff,
      below_eq_empty_iff]
    simp

/-- Unless the module path is empty, a reference to items below another one resolves to the full path of that one and
then the items. -/
theorem members_resolve (ends : reference.modulePath.toList.getLast? ≠ some ':') {current : String}
    {items : List String} (listed : items ≠ [])
    (clean : ∀ failure, (reference.members items).resolve current ≠ .error failure) :
    (reference.members items).resolve current = .ok ⟨reference.fullPath ++ below items, reference.dependency⟩ := by
  obtain ⟨before, last, rfl⟩ := (List.eq_nil_or_concat items).resolve_left listed
  rw [List.concat_eq_append, members_concat] at clean ⊢
  have nonempty : reference.modulePath ++ below (reference.name.toList ++ before) ≠ "" := by
    intro empty
    exact clean _ (resolve_eq_error_iff.mpr ⟨empty, rfl⟩)
  have text : fullPath ⟨some last, reference.dependency,
      reference.modulePath ++ below (reference.name.toList ++ before)⟩ =
        reference.fullPath ++ below (before ++ [last]) := by
    rw [fullPath_eq, isLocal_below ends, ← members_concat, path_members, fullPath_eq, String.append_assoc]
  rw [resolve_of_ne_empty nonempty (.inl rfl), text]

/-- A reference to items below another one fails to resolve if and only if that one does and no more than one name, its
own or that of an item, has been given: later the empty module path is not seen any more. Otherwise it resolves to the
full path of that one followed by the items, with the dependency of that one. -/
theorem resolve_members (ends : reference.modulePath.toList.getLast? ≠ some ':') (current : String)
    (items : List String) :
    (∀ failure, (reference.members items).resolve current = .error failure ↔
      ((∃ refused, reference.resolve current = .error refused) ∧ (reference.name.toList ++ items).length ≤ 1) ∧
        failure = .emptyModulePath (((reference.name.toList ++ items).getLast?).getD "")) ∧
    (items ≠ [] → (∀ failure, (reference.members items).resolve current ≠ .error failure) →
      (reference.members items).resolve current = .ok ⟨reference.fullPath ++ below items, reference.dependency⟩ ∧
      (localRoot.toList <+: (reference.fullPath ++ below items).toList ↔ reference.isLocal = true) ∧
      ("::".toList <+: (reference.fullPath ++ below items).toList ↔ reference.isLocal = false)) := by
  constructor
  · intro failure
    rw [exists_refused_iff]
    exact members_eq_error_iff
  · intro listed clean
    exact ⟨members_resolve ends listed clean, starts_fullPath reference (below items)⟩

/-- A member of a member, written from the root of the generated crate. -/
theorem resolve_members_instant :
    (members ⟨some "instant", none, "smithy_types"⟩ ["Format", "Kind"]).resolve "crate" =
      .ok ⟨"::smithy_types::instant::Format::Kind", none⟩ := by
  obtain ⟨fails_iff, resolves⟩ :=
    @resolve_members ⟨some "instant", none, "smithy_types"⟩ (by decide) "crate" ["Format", "Kind"]
  have clean : ∀ failure, (members ⟨some "instant", none, "smithy_types"⟩ ["Format", "Kind"]).resolve "crate" ≠
      .error failure := by
    intro failure failed
    exact absurd ((fails_iff failure).mp failed).1.2 (by decide)
  exact (resolves (by simp) clean).1

/-- An item below a reference that fails to resolve for want of a module path resolves all the same. -/
theorem resolve_members_orphan :
    ("".toList.getLast? ≠ some ':') ∧
      resolve ⟨some "Orphan", none, ""⟩ "crate" = .error (.emptyModulePath "Orphan") ∧
      (members ⟨some "Orphan", none, ""⟩ ["Format"]).resolve "crate" = .ok ⟨"::::Orphan::Format", none⟩ :=
  ⟨by decide, rfl, rfl⟩

end Reference

end Cratewright
