/-!
# Kinds and cardinalities of fields

The kind of a field says what its values are, its cardinality how many there are. Both are written
by their names.
-/

namespace MessageSchema

/-- What the values of a field are. -/
inductive Kind where
  | bool
  | string
  | bytes
  | int32
  | sint32
  | sfixed32
  | uint32
  | fixed32
  | int64
  | sint64
  | sfixed64
  | uint64
  | fixed64
  | float
  | double
  | enum
  | message
  /-- A group of fields inside a message; it has no form in JSON. -/
  | group
  deriving DecidableEq

namespace Kind

/-- The name of a kind. -/
def name : Kind → String
  | bool => "bool"
  | string => "string"
  | bytes => "bytes"
  | int32 => "int32"
  | sint32 => "sint32"
  | sfixed32 => "sfixed32"
  | uint32 => "uint32"
  | fixed32 => "fixed32"
  | int64 => "int64"
  | sint64 => "sint64"
  | sfixed64 => "sfixed64"
  | uint64 => "uint64"
  | fixed64 => "fixed64"
  | float => "float"
  | double => "double"
  | enum => "enum"
  | message => "message"
  | group => "group"

/-- Every kind. -/
def all : List Kind :=
  [bool, string, bytes, int32, sint32, sfixed32, uint32, fixed32, int64, sint64, sfixed64, uint64,
    fixed64, float, double, enum, message, group]

/-- The kind of a name. -/
def ofName? (name : String) : Option Kind := all.find? (·.name == name)

/-- Whether fields of the kind refer to a declared type. -/
def isNamed : Kind → Bool
  | enum | message => true
  | _ => false

theorem mem_all (kind : Kind) : kind ∈ all := by cases kind <;> decide

@[simp] theorem ofName?_name (kind : Kind) : ofName? kind.name = some kind := by
  cases kind <;> decide

end Kind

/-- How many values a field has. -/
inductive Cardinality where
  | singular
  | repeated
  | map
  /-- One value that must be there. -/
  | required
  deriving DecidableEq

namespace Cardinality

/-- The name of a cardinality. -/
def name : Cardinality → String
  | singular => "singular"
  | repeated => "repeated"
  | map => "map"
  | required => "required"

/-- Every cardinality. -/
def all : List Cardinality := [singular, repeated, map, required]

/-- The cardinality of a name. -/
def ofName? (name : String) : Option Cardinality := all.find? (·.name == name)

@[simp] theorem ofName?_name (cardinality : Cardinality) :
    ofName? cardinality.name = some cardinality := by
  cases cardinality <;> decide

end Cardinality

end MessageSchema
