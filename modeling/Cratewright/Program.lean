import Cratewright.Support

/-!
# Programs for a writer

What is written is data: a program is a list of writer operations, and a writable, the form in which a contribution is
passed on, is a program or nothing at all. A program may name an item by its role; which crate and path that is
follows from the configuration and the module of the writer that runs it. Running programs is the subject of
`Cratewright.Program.Run`.
-/

namespace Cratewright

/-- What a program refers to: a fixed reference, a support item under the writer's configuration, or an item of the
writer's own module. -/
inductive Target
  | fixed (reference : Reference)
  | support (item : SupportItem)
  | own (name : String)

/-- The reference a target means for a writer. -/
def Target.referenceFor (config : RuntimeConfig) (modulePath : String) : Target → Reference
  | .fixed reference => reference
  | .support item => item.reference config
  | .own name => ⟨some name, none, modulePath⟩

mutual

/-- An operation of a writer. -/
inductive Op
  /-- Writes a template with positional arguments. -/
  | write (template : String) (arguments : List Argument)
  /-- Writes a template with named arguments. -/
  | writeNamed (template : String) (arguments : List (String × Argument))
  /-- Writes a header and an opening brace, a body one level deeper, and a closing brace. -/
  | block (header : String) (arguments : List Argument) (body : List Op)
  | indent (levels : Nat)
  | dedent (levels : Nat)
  /-- Resolves a reference without writing it. -/
  | resolve (target : Target)
  /-- Records a dependency. -/
  | register (dependency : Dependency)
  /-- Writes a writable at the current level. -/
  | insert (writable : Writable)
  | fail (error : CodegenError)

/-- An argument of a template. -/
inductive Argument
  | target (target : Target)
  | text (text : String)
  | writable (writable : Writable)

/-- A program to be run where it is needed, or nothing. -/
inductive Writable
  | empty
  | program (operations : List Op)

end

instance : Inhabited Op := ⟨.indent 0⟩
instance : Inhabited Writable := ⟨.empty⟩
instance : Inhabited Argument := ⟨.text ""⟩

/-- Operations in the order in which they run. -/
abbrev Program := List Op

namespace Writable

/-- A template without arguments. -/
def template (text : String) : Writable := .program [.write text []]

/-- Whether a writable is nothing; a program without operations is something. -/
def isEmpty : Writable → Bool
  | .empty => true
  | .program _ => false

/-- The operations of a writable. -/
def operations : Writable → Program
  | .empty => []
  | .program operations => operations

/-- Writables one after another, which is nothing if each of them is. -/
def concat (parts : List Writable) : Writable :=
  if parts.all isEmpty then .empty else .program (parts.flatMap operations)

end Writable

/-- The dependency that a target carries with it. -/
def Target.dependencies : Target → List Dependency
  | .fixed reference => reference.dependency.toList
  | _ => []

mutual

/-- The dependencies that an operation mentions. -/
def Op.dependencies : Op → List Dependency
  | .write _ arguments => argumentDependencies arguments
  | .writeNamed _ arguments => namedArgumentDependencies arguments
  | .block _ arguments body => argumentDependencies arguments ++ programDependencies body
  | .indent _ => []
  | .dedent _ => []
  | .resolve target => target.dependencies
  | .register dependency => [dependency]
  | .insert writable => writable.dependencies
  | .fail _ => []

/-- The dependencies that a program mentions. -/
def programDependencies : List Op → List Dependency
  | [] => []
  | operation :: rest => operation.dependencies ++ programDependencies rest

/-- The dependencies that an argument mentions. -/
def Argument.dependencies : Argument → List Dependency
  | .target target => target.dependencies
  | .text _ => []
  | .writable writable => writable.dependencies

/-- The dependencies that positional arguments mention. -/
def argumentDependencies : List Argument → List Dependency
  | [] => []
  | argument :: rest => argument.dependencies ++ argumentDependencies rest

/-- The dependencies that named arguments mention. -/
def namedArgumentDependencies : List (String × Argument) → List Dependency
  | [] => []
  | (_, argument) :: rest => argument.dependencies ++ namedArgumentDependencies rest

/-- The dependencies that a writable mentions. -/
def Writable.dependencies : Writable → List Dependency
  | .empty => []
  | .program operations => programDependencies operations

end

end Cratewright
