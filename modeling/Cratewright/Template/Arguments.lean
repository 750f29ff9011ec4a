import Cratewright.Error

/-!
# Arguments of a template

Positional arguments are taken in order. Of named arguments the first with a name answers to it, any number of times.
At the end every argument must have been taken, so a name given twice is a fault.
-/

namespace Cratewright.Template

variable {Value : Type}

/-- A named argument and whether it has been taken. -/
structure NamedArgument (Value : Type) where
  name : String
  value : Value
  taken : Bool := false

/-- The arguments of one use of a template, as far as they have been taken. -/
inductive Arguments (Value : Type)
  | positional (given : Nat) (remaining : List Value)
  | named (entries : List (NamedArgument Value))

namespace Arguments

/-- Positional arguments, none of them taken. -/
def ofList (values : List Value) : Arguments Value := .positional values.length values

/-- Named arguments, none of them taken. -/
def ofPairs (pairs : List (String × Value)) : Arguments Value :=
  .named (pairs.map fun (name, value) => { name, value })

/-- Takes the next positional argument. -/
def next : Arguments Value → Except TemplateFault (Value × Arguments Value)
  | .positional given (value :: rest) => .ok (value, .positional given rest)
  | .positional given [] => .error (.tooFewArguments given)
  | .named _ => .error .positionalAmongNamed

/-- Marks the first argument with a name as taken. -/
def take? (name : String) : List (NamedArgument Value) → Option (Value × List (NamedArgument Value))
  | [] => none
  | entry :: rest =>
    if entry.name = name then some (entry.value, { entry with taken := true } :: rest)
    else (take? name rest).map fun (value, rest) => (value, entry :: rest)

/-- Takes the argument with a name. -/
def lookup (name : String) : Arguments Value → Except TemplateFault (Value × Arguments Value)
  | .positional .. => .error (.namedAmongPositional name)
  | .named entries =>
    match take? name entries with
    | some (value, entries) => .ok (value, .named entries)
    | none => .error (.unknownName name)

/-- Checks that every argument has been taken. -/
def finish : Arguments Value → Except TemplateFault Unit
  | .positional _ [] => .ok ()
  | .positional _ remaining => .error (.unusedPositional remaining.length)
  | .named entries =>
    match entries.filter (!·.taken) with
    | [] => .ok ()
    | unused => .error (.unusedNamed (unused.map (·.name)))

end Arguments

end Cratewright.Template
