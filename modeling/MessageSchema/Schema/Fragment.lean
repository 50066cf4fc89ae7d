import MessageSchema.Json.Basic
import MessageSchema.Descriptor.Basic
import MessageSchema.Schema.Error

/-!
# Schemas of single values

What JSON Schema says of one value of each kind. Integers of 64 bits are written as decimal strings
in JSON; a floating-point number is a number or one of three strings; an enum value is the name of
one of the declared values. Messages have no schema of their own here, groups none at all.
-/

namespace MessageSchema

namespace Fragment

/-- The pattern of integers that are written as strings. -/
def decimalPattern : String := "^-?[0-9]+$"

/-- An object with a `type` and more members. -/
def typed (type : String) (more : Members) : Json := .obj (("type", .str type) :: more)

/-- The strings that stand for numbers which are not finite. -/
def sentinels : Json := .strings ["NaN", "Infinity", "-Infinity"]

/-- The forms of a floating-point number. -/
def floatBranches : List Json :=
  [typed "number" [], typed "string" [("enum", sentinels)]]

/-- A string among the names of an enum type, any string if there are none. -/
def enumeration (enum : Option EnumType) : Json :=
  match enum.map (·.values.map (·.name)) with
  | none | some [] => typed "string" []
  | some names => typed "string" [("enum", .strings names)]

end Fragment

open Fragment in
/-- The schema of one value of a kind, with the enum type the field refers to. -/
def Kind.fragment (kind : Kind) (enum : Option EnumType) : Except SchemaError Json :=
  match kind with
  | .bool => .ok (typed "boolean" [])
  | .string => .ok (typed "string" [])
  | .bytes => .ok (typed "string" [("contentEncoding", .str "base64")])
  | .int32 | .sint32 | .sfixed32 | .uint32 | .fixed32 => .ok (typed "integer" [])
  | .int64 | .sint64 | .sfixed64 | .uint64 | .fixed64 =>
    .ok (typed "string" [("pattern", .str decimalPattern)])
  | .float | .double => .ok (typed "number" [("oneOf", .arr floatBranches)])
  | .enum => .ok (enumeration enum)
  | .message | .group => .error (.unsupportedKind kind)

end MessageSchema
