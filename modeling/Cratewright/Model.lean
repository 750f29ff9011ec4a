import Cratewright.Error
import Cratewright.Support

/-!
# The queried model

A model lists the members of structures in order and gives shapes their trait values. Generation only asks for traits
and members. An identifier is not checked: `a#B$c` has the name `B` and the member `c`, and any text is an identifier.
-/

namespace Cratewright

/-- The identifier of a shape or of a member of a structure. -/
structure ShapeId where
  text : String
deriving DecidableEq, Repr

/-- What follows the first occurrence of a character. -/
def afterFirst? (mark : Char) (text : List Char) : Option (List Char) :=
  match text.dropWhile (· ≠ mark) with
  | [] => none
  | _ :: rest => some rest

namespace ShapeId

/-- The name of a shape: what follows the namespace, without a member. Without a namespace it is the whole text. -/
def name (shape : ShapeId) : String :=
  match afterFirst? '#' shape.text.toList with
  | some rest => String.ofList (rest.takeWhile (· ≠ '$'))
  | none => shape.text

/-- The member that is identified, if one is. -/
def member (shape : ShapeId) : Option String := (afterFirst? '$' shape.text.toList).map String.ofList

/-- The identifier of a member of a structure. -/
def withMember (structureId : ShapeId) (member : String) : ShapeId := ⟨structureId.text ++ "$" ++ member⟩

end ShapeId

/-- The trait that fixes the wire format of a timestamp. -/
def timestampFormatTrait : String := "smithy.api#timestampFormat"

/-- The trait that marks a member as an idempotency token. -/
def idempotencyTokenTrait : String := "smithy.api#idempotencyToken"

/-- Members of structures in the order in which they were added, and trait values with the newest first. -/
structure Model where
  memberList : List (ShapeId × ShapeId) := []
  traitList : List ((ShapeId × String) × String) := []

instance : Inhabited Model := ⟨{}⟩

namespace Model

/-- The model with a member added to a structure. -/
def withMember (model : Model) (structureId : ShapeId) (member : String) : Model :=
  { model with memberList := model.memberList ++ [(structureId, structureId.withMember member)] }

/-- The model with a trait value, which replaces an older one. -/
def withTrait (model : Model) (shape : ShapeId) (traitId value : String) : Model :=
  { model with traitList := ((shape, traitId), value) :: model.traitList }

/-- The value of a trait on a shape. -/
def traitValue (model : Model) (shape : ShapeId) (traitId : String) : Option String :=
  model.traitList.lookup (shape, traitId)

/-- Whether a shape has a trait, with whatever value. -/
def hasTrait (model : Model) (shape : ShapeId) (traitId : String) : Bool :=
  (model.traitValue shape traitId).isSome

/-- The members of a structure, in order. -/
def members (model : Model) (structureId : ShapeId) : List ShapeId :=
  model.memberList.filterMap fun (owner, member) => if owner = structureId then some member else none

/-- The first member of a structure that is marked as an idempotency token. -/
def idempotencyTokenMember (model : Model) (structureId : ShapeId) : Option ShapeId :=
  (model.members structureId).find? (model.hasTrait · idempotencyTokenTrait)

end Model

/-- The timestamp format that a trait value stands for; there are no others. -/
def TimestampFormat.ofTraitValue : String → Except CodegenError TimestampFormat
  | "epoch-seconds" => .ok .epochSeconds
  | "date-time" => .ok .dateTime
  | "http-date" => .ok .httpDate
  | other => .error (.unsupportedTraitValue timestampFormatTrait other)

/-- The timestamp format of a shape, with a default for shapes without the trait. -/
def Model.timestampFormat (model : Model) (shape : ShapeId) (default : TimestampFormat) :
    Except CodegenError TimestampFormat :=
  match model.traitValue shape timestampFormatTrait with
  | some value => TimestampFormat.ofTraitValue value
  | none => .ok default

end Cratewright
