import Cratewright.Materialize

/-!
# Visits as a relation

`Catalogue.visit` carries the proof that it ends along with the dependencies it visits. `Walk` says what a visit of
some dependencies does without that proof, one rule for each thing that can happen to the first of them: it is passed
over, it is rendered and the rest is visited, or the walk ends there with a failure. Main statement: a materialization
is a walk from its roots. What holds of every materialization then follows by induction on the walk.
-/

namespace Cratewright

/-- Visits of dependencies one after another, inside the modules that were entered, and their result. -/
inductive Walk (catalogue : Catalogue) (config : RuntimeConfig) :
    List DependencyKey → Materialized → List Dependency → Except CodegenError Materialized → Prop where
  | nil {entered before} : Walk catalogue config entered before [] (.ok before)
  | crate {entered before declaration next rest result}
      (recorded : before.record (.crate declaration) = .ok next)
      (onward : Walk catalogue config entered next rest result) :
      Walk catalogue config entered before (.crate declaration :: rest) result
  | conflict {entered before declaration failure rest}
      (refused : before.record (.crate declaration) = .error failure) :
      Walk catalogue config entered before (.crate declaration :: rest) (.error failure)
  | done {entered before definition rest result}
      (present : before.has definition.key = true)
      (onward : Walk catalogue config entered before rest result) :
      Walk catalogue config entered before (.inline definition :: rest) result
  | cycle {entered before definition rest}
      (absent : before.has definition.key = false)
      (again : definition.key ∈ entered) :
      Walk catalogue config entered before (.inline definition :: rest)
        (.error (.cyclicInline ((requirementCycle entered definition.key).map DependencyKey.text)))
  | unrendered {entered before definition failure rest}
      (absent : before.has definition.key = false)
      (new : definition.key ∉ entered)
      (failed : catalogue.render config definition = .error failure) :
      Walk catalogue config entered before (.inline definition :: rest) (.error failure)
  | stopped {entered before definition source written failure rest}
      (absent : before.has definition.key = false)
      (new : definition.key ∉ entered)
      (rendered : catalogue.render config definition = .ok (source, written))
      (inside : Walk catalogue config (entered ++ [definition.key]) before (definition.requirements written)
        (.error failure)) :
      Walk catalogue config entered before (.inline definition :: rest) (.error failure)
  | refused {entered before definition source written inner failure rest}
      (absent : before.has definition.key = false)
      (new : definition.key ∉ entered)
      (rendered : catalogue.render config definition = .ok (source, written))
      (inside : Walk catalogue config (entered ++ [definition.key]) before (definition.requirements written)
        (.ok inner))
      (refused : inner.record (.inline definition) = .error failure) :
      Walk catalogue config entered before (.inline definition :: rest) (.error failure)
  | rendered {entered before definition source written inner next rest result}
      (absent : before.has definition.key = false)
      (new : definition.key ∉ entered)
      (rendered : catalogue.render config definition = .ok (source, written))
      (inside : Walk catalogue config (entered ++ [definition.key]) before (definition.requirements written)
        (.ok inner))
      (recorded : inner.record (.inline definition) = .ok next)
      (onward : Walk catalogue config entered (next.add definition source) rest result) :
      Walk catalogue config entered before (.inline definition :: rest) result

variable {catalogue : Catalogue} {config : RuntimeConfig} {allowed entered : List DependencyKey}
  {before : Materialized}

/-- Whatever the visit inside an inline module comes to, it decides how the walk goes on. -/
theorem Walk.inline {definition : InlineDependency} {source : String} {written : Manifest} {rest : List Dependency}
    {onward : Materialized → Except CodegenError Materialized} {outcome : Except CodegenError Materialized}
    (absent : before.has definition.key = false) (new : definition.key ∉ entered)
    (rendered : catalogue.render config definition = .ok (source, written))
    (inside : Walk catalogue config (entered ++ [definition.key]) before (definition.requirements written) outcome)
    (walks : ∀ next, Walk catalogue config entered next rest (onward next)) :
    Walk catalogue config entered before (.inline definition :: rest)
      ((do
        let after ← outcome
        return (← after.record (.inline definition)).add definition source) >>= onward) := by
  cases outcome with
  | error failure => exact .stopped absent new rendered inside
  | ok inner =>
    change Walk catalogue config entered before _ ((inner.record (.inline definition) >>= fun next =>
      pure (next.add definition source)) >>= onward)
    cases recorded : inner.record (.inline definition) with
    | error failure => exact .refused absent new rendered inside recorded
    | ok next => exact .rendered absent new rendered inside recorded (walks (next.add definition source))

namespace Catalogue

variable {closed : ∀ dependency ∈ catalogue.dependencies, dependency.Within allowed}

/-- Visiting a crate records it. -/
theorem visit_crate {declaration : CrateDependency}
    (within : (Dependency.crate declaration).Within allowed) :
    catalogue.visit config allowed closed entered before ⟨.crate declaration, within⟩ =
      before.record (.crate declaration) := by
  rw [visit]

/-- The dependencies that are visited, each with the proof that its keys are among those that can be entered. -/
abbrev Admitted (allowed : List DependencyKey) := { dependency : Dependency // dependency.Within allowed }

/-- Visiting dependencies one after another is a walk over them. -/
theorem walk_foldlM (catalogue : Catalogue) (config : RuntimeConfig) (allowed : List DependencyKey)
    (closed : ∀ dependency ∈ catalogue.dependencies, dependency.Within allowed) (entered : List DependencyKey) :
    ∀ (admitted : List (Admitted allowed)) (before : Materialized),
      Walk catalogue config entered before (admitted.map Subtype.val)
        (admitted.foldlM (catalogue.visit config allowed closed entered) before)
  | [], before => .nil
  | ⟨.crate declaration, within⟩ :: rest, before => by
    rw [List.foldlM_cons, visit_crate, List.map_cons]
    cases recorded : before.record (.crate declaration) with
    | error failure => exact .conflict recorded
    | ok next => exact .crate recorded (walk_foldlM catalogue config allowed closed entered rest next)
  | ⟨.inline definition, within⟩ :: rest, before => by
    rw [List.foldlM_cons, visit, List.map_cons]
    split
    · rename_i present
      exact .done present (walk_foldlM catalogue config allowed closed entered rest before)
    · rename_i absent
      rw [Bool.not_eq_true] at absent
      split
      · rename_i again
        exact .cycle absent again
      · rename_i new
        split
        · rename_i failed
          exact .unrendered absent new failed
        · rename_i source written rendered
          have inside := walk_foldlM catalogue config allowed closed (entered ++ [definition.key])
            ((definition.requirements written).attachWith (·.Within allowed)
              (InlineModule.within_requirements within (Catalogue.within_of_render closed rendered))) before
          rw [List.attachWith_map_subtype_val] at inside
          exact .inline absent new rendered inside fun next =>
            walk_foldlM catalogue config allowed closed entered rest next
termination_by admitted => ((allowed.filter (· ∉ entered)).length, admitted.length)
decreasing_by
  · exact .right _ (Nat.lt_succ_self _)
  · exact .left _ _ (length_not_entered_lt within.key_mem ‹_›)
  · exact .right _ (Nat.lt_succ_self _)
  · exact .right _ (Nat.lt_succ_self _)

/-- Materialization walks from its roots, with nothing entered and nothing rendered. -/
theorem walk_materialize (catalogue : Catalogue) (config : RuntimeConfig) (roots : List Dependency) :
    Walk catalogue config [] {} roots (catalogue.materialize config roots) := by
  rw [materialize]
  have walks := walk_foldlM catalogue config (Dependency.inlineKeysOfAll (roots ++ catalogue.dependencies))
    (fun _ mem => Dependency.within_inlineKeysOfAll (List.mem_append_right _ mem)) []
    (roots.attachWith _ fun _ mem => Dependency.within_inlineKeysOfAll (List.mem_append_left _ mem)) {}
  rwa [List.attachWith_map_subtype_val] at walks

end Catalogue

end Cratewright
