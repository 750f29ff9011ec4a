import Cratewright.Program

/-!
# What a program mentions

A program mentions dependencies, at any depth of its arguments and blocks, and support items, which stand for crates
under a configuration. Together they are all that running the program may declare.
-/

namespace Cratewright

/-- The support item that a target is. -/
def Target.supportItems : Target → List SupportItem
  | .support item => [item]
  | _ => []

mutual

/-- The support items that an operation mentions. -/
def Op.supportItems : Op → List SupportItem
  | .write _ arguments => argumentSupportItems arguments
  | .writeNamed _ arguments => namedArgumentSupportItems arguments
  | .block _ arguments body => argumentSupportItems arguments ++ programSupportItems body
  | .indent _ => []
  | .dedent _ => []
  | .resolve target => target.supportItems
  | .register _ => []
  | .insert writable => writable.supportItems
  | .fail _ => []

/-- The support items that a program mentions. -/
def programSupportItems : List Op → List SupportItem
  | [] => []
  | operation :: rest => operation.supportItems ++ programSupportItems rest

/-- The support items that an argument mentions. -/
def Argument.supportItems : Argument → List SupportItem
  | .target target => target.supportItems
  | .text _ => []
  | .writable writable => writable.supportItems

/-- The support items that positional arguments mention. -/
def argumentSupportItems : List Argument → List SupportItem
  | [] => []
  | argument :: rest => argument.supportItems ++ argumentSupportItems rest

/-- The support items that named arguments mention. -/
def namedArgumentSupportItems : List (String × Argument) → List SupportItem
  | [] => []
  | (_, argument) :: rest => argument.supportItems ++ namedArgumentSupportItems rest

/-- The support items that a writable mentions. -/
def Writable.supportItems : Writable → List SupportItem
  | .empty => []
  | .program operations => programSupportItems operations

end

/-- The dependencies that a program mentions under a configuration. -/
def programDeclarations (config : RuntimeConfig) (operations : Program) : List Dependency :=
  programDependencies operations ++
    (programSupportItems operations).map fun item => .crate (item.owner.declaration config)

/-- The dependencies of arguments are those of each one. -/
theorem argumentDependencies_eq_flatMap (arguments : List Argument) :
    argumentDependencies arguments = arguments.flatMap Argument.dependencies := by
  induction arguments with
  | nil => rfl
  | cons first rest ih => rw [argumentDependencies, ih, List.flatMap_cons]

/-- The dependencies of named arguments are those of each one. -/
theorem namedArgumentDependencies_eq_flatMap (arguments : List (String × Argument)) :
    namedArgumentDependencies arguments = arguments.flatMap fun (_, argument) => argument.dependencies := by
  induction arguments with
  | nil => rfl
  | cons first rest ih => rw [namedArgumentDependencies, ih, List.flatMap_cons]

/-- The dependencies of a program in two parts are those of either part. -/
theorem programDependencies_append (first second : List Op) :
    programDependencies (first ++ second) = programDependencies first ++ programDependencies second := by
  induction first with
  | nil => rfl
  | cons operation rest ih => simp [programDependencies, ih]

/-- The support items of a program in two parts are those of either part. -/
theorem programSupportItems_append (first second : List Op) :
    programSupportItems (first ++ second) = programSupportItems first ++ programSupportItems second := by
  induction first with
  | nil => rfl
  | cons operation rest ih => simp [programSupportItems, ih]

end Cratewright
