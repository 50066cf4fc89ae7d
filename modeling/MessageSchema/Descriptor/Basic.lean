import MessageSchema.Descriptor.Kind
import MessageSchema.Descriptor.Rules
import MessageSchema.Text.JsonName

/-!
# Descriptors

A descriptor set declares message types and enum types. A message type has fields; a field has a
kind, a cardinality, and where its kind asks for one the name of a type. The values of a map field
are described by a field of their own. Type names may be written with a leading dot, which
`plainName` takes off once.
-/

namespace MessageSchema

/-- What is noted about a field for its readers. -/
structure Annotations where
  description : Option String := none
  deriving DecidableEq

/-- A field of a message type, or the values of a map field. -/
structure Field where
  name : String
  /-- The JSON name, where it is not the one derived from the name. -/
  jsonName? : Option String := none
  kind : Kind
  cardinality : Cardinality := .singular
  /-- Whether an absent value is told apart from an empty one. -/
  presence : Bool := false
  typeName? : Option String := none
  mapValue : Option Field := none
  annotations : Option Annotations := none
  rules : Option FieldRules := none

/-- A message type with its fields in order. -/
structure MessageType where
  declaredName : String
  fields : List Field := []

/-- A value of an enum type. -/
structure EnumValue where
  name : String
  number : Signed32
  deriving DecidableEq

/-- An enum type with its values in order. -/
structure EnumType where
  declaredName : String
  values : List EnumValue := []
  deriving DecidableEq

/-- Message types and enum types. -/
structure DescriptorSet where
  messages : List MessageType := []
  enums : List EnumType := []

/-- A type name without one leading dot. -/
def plainName (name : String) : String :=
  match name.toList with
  | '.' :: rest => String.ofList rest
  | _ => name

/-- What follows the last dot of a name. -/
def lastSegment (name : String) : String :=
  String.ofList (name.toList.reverse.takeWhile (· ≠ '.')).reverse

namespace Field

instance : Inhabited Field := ⟨{ name := "", kind := .bool }⟩

/-- The name of the field in JSON. -/
def jsonName (f : Field) : String := f.jsonName?.getD (JsonName.ofName f.name)

/-- The name of the type that the field refers to, without a leading dot. -/
def typeName (f : Field) : Option String := f.typeName?.map plainName

/-- The description of the field. -/
def description (f : Field) : Option String := f.annotations.bind (·.description)

/-- Whether the field is a list. -/
def isList (f : Field) : Bool := f.cardinality = .repeated

/-- Whether the field is a map. -/
def isMap (f : Field) : Bool := f.cardinality = .map

/-- A field that refers to a type. -/
def ofType (name : String) (kind : Kind) (typeName : String) : Field :=
  { name, kind, typeName? := some typeName }

/-- A map field for values described by `value`. -/
def mapOf (name : String) (value : Field) : Field :=
  { name, kind := value.kind, cardinality := .map, mapValue := some value }

end Field

namespace MessageType

/-- The full name, without a leading dot. -/
def fullName (m : MessageType) : String := plainName m.declaredName

/-- The last segment of the full name. -/
def name (m : MessageType) : String := lastSegment m.fullName

end MessageType

namespace EnumType

/-- The full name, without a leading dot. -/
def fullName (e : EnumType) : String := plainName e.declaredName

/-- The name of the first value with a number. -/
def nameOf? (e : EnumType) (number : Signed32) : Option String :=
  (e.values.find? (·.number = number)).map (·.name)

end EnumType

end MessageSchema
