import MessageSchema.Schema.Fragment

/-!
# Well-known types

Message types whose form in JSON is fixed and does not follow from their fields: the wrappers of
single values, times, and the types that stand for arbitrary JSON. Each has a schema of its own,
and none is ever taken apart into fields.
-/

namespace MessageSchema

/-- A message type with a fixed form in JSON. -/
inductive WellKnown where
  | stringValue
  | boolValue
  | int32Value
  | uint32Value
  | int64Value
  | uint64Value
  | floatValue
  | doubleValue
  | bytesValue
  | timestamp
  | duration
  | empty
  | fieldMask
  | struct
  | value
  | listValue
  | any
  deriving DecidableEq

namespace WellKnown

open Fragment

/-- The full name of the type. -/
def fullName : WellKnown → String
  | stringValue => "google.protobuf.StringValue"
  | boolValue => "google.protobuf.BoolValue"
  | int32Value => "google.protobuf.Int32Value"
  | uint32Value => "google.protobuf.UInt32Value"
  | int64Value => "google.protobuf.Int64Value"
  | uint64Value => "google.protobuf.UInt64Value"
  | floatValue => "google.protobuf.FloatValue"
  | doubleValue => "google.protobuf.DoubleValue"
  | bytesValue => "google.protobuf.BytesValue"
  | timestamp => "google.protobuf.Timestamp"
  | duration => "google.protobuf.Duration"
  | empty => "google.protobuf.Empty"
  | fieldMask => "google.protobuf.FieldMask"
  | struct => "google.protobuf.Struct"
  | value => "google.protobuf.Value"
  | listValue => "google.protobuf.ListValue"
  | any => "google.protobuf.Any"

/-- Every well-known type. -/
def all : List WellKnown :=
  [stringValue, boolValue, int32Value, uint32Value, int64Value, uint64Value, floatValue,
    doubleValue, bytesValue, timestamp, duration, empty, fieldMask, struct, value, listValue, any]

/-- The well-known type of a name, which may have a leading dot. -/
def ofName? (name : String) : Option WellKnown := all.find? (·.fullName == plainName name)

/-- A `type` and more members, where null is allowed too. -/
def nullable (type : String) (more : Members) : Json :=
  .obj (("type", .strings [type, "null"]) :: more)

/-- Any JSON value. -/
def anything : Json :=
  .obj [("type", .strings ["object", "array", "string", "number", "boolean", "null"])]

/-- The pattern of a length of time in seconds. -/
def durationPattern : String := "^-?[0-9]+(\\.[0-9]+)?s$"

/-- The pattern of a list of paths. -/
def pathsPattern : String := "^([a-zA-Z0-9_.]+)(,[a-zA-Z0-9_.]+)*$"

/-- The schema of a well-known type. -/
def schema : WellKnown → Json
  | stringValue => nullable "string" []
  | boolValue => nullable "boolean" []
  | int32Value | uint32Value => nullable "integer" []
  | int64Value | uint64Value => nullable "string" [("pattern", .str decimalPattern)]
  | floatValue | doubleValue => .obj [("oneOf", .arr (floatBranches ++ [typed "null" []]))]
  | bytesValue => nullable "string" [("contentEncoding", .str "base64")]
  | timestamp => typed "string" [("format", .str "date-time")]
  | duration => typed "string" [("pattern", .str durationPattern)]
  | empty => typed "object" [("additionalProperties", .bool false)]
  | fieldMask => typed "string" [("pattern", .str pathsPattern)]
  | struct => typed "object" []
  | value => anything
  | listValue => typed "array" [("items", anything)]
  | any => typed "object" [("properties", .obj [("@type", typed "string" [])])]

theorem mem_all (type : WellKnown) : type ∈ all := by cases type <;> decide

@[simp] theorem ofName?_fullName (type : WellKnown) : ofName? type.fullName = some type := by
  cases type <;> decide

end WellKnown

end MessageSchema
