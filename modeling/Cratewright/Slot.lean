import Cratewright.Program

/-!
# Slots and customizations

A generator leaves slots in the code it writes, and customizations contribute to them. The contributions to a slot are
written one after another, in the order in which the customizations are listed, with nothing in between.
-/

namespace Cratewright

/-- A place in generated code that customizations contribute to. -/
class Slot (Place : Type) where
  /-- Every slot with its usual bindings, in the order in which they are written. -/
  all : List Place
  name : Place → String

/-- A contributor to the slots of one generator. -/
structure Customization (Place : Type) where
  name : String
  contribution : Place → Writable

/-- The contributions of all customizations to a slot. -/
def contributions {Place : Type} (customizations : List (Customization Place)) (slot : Place) : Writable :=
  Writable.concat (customizations.map (·.contribution slot))

end Cratewright
