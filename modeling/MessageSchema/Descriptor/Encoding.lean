import MessageSchema.Json.Basic
import MessageSchema.Text.Base64
import MessageSchema.Descriptor.Basic

/-!
# Descriptors as JSON

How descriptors are written: each structure as an object of its fields in order. Fields that are
not set and empty lists of allowed or forbidden values are left out; everything else is written,
also where it is the default.
-/

namespace MessageSchema

/-- Numbers of rules as they are written in descriptors. -/
class RuleEncoding (α : Type) where
  encode : α → Json

namespace RuleEncoding

instance : RuleEncoding Signed32 := ⟨fun n => .int n.toInteger⟩
instance : RuleEncoding Unsigned32 := ⟨fun n => .int n.toInteger⟩
instance : RuleEncoding Signed64 := ⟨fun n => .int n.toInteger⟩
instance : RuleEncoding Unsigned64 := ⟨Json.ofSize⟩

-- A number that is not finite has no form in JSON and is written as null.
instance : RuleEncoding Double := ⟨fun d => d.finite?.elim .null fun value => .num (.double value)⟩
instance : RuleEncoding Single := ⟨fun s => s.finite?.elim .null fun value => .num (.single value)⟩

end RuleEncoding

/-- A list of values, left out if it is empty. -/
def encodeListed {α : Type} (encode : α → Json) (values : List α) : Option Json :=
  if values.isEmpty then none else some (.arr (values.map encode))

/-- The encoding of rules for strings. -/
def StringRules.encode (r : StringRules) : Json := .ofOptional [
  ("const", r.const.map .str),
  ("min_len", r.minLength.map .ofSize),
  ("max_len", r.maxLength.map .ofSize),
  ("pattern", r.pattern.map .str),
  ("prefix", r.startsWith.map .str),
  ("suffix", r.endsWith.map .str),
  ("contains", r.contains.map .str),
  ("in", encodeListed .str r.among),
  ("not_in", encodeListed .str r.notAmong),
  ("email", some (.bool r.email)),
  ("hostname", some (.bool r.hostname)),
  ("uri", some (.bool r.uri))]

/-- The encoding of rules for bytes. -/
def BytesRules.encode (r : BytesRules) : Json := .ofOptional [
  ("const", r.const.map fun bytes => .str (String.ofList (Base64.encode bytes))),
  ("min_len", r.minLength.map .ofSize),
  ("max_len", r.maxLength.map .ofSize),
  ("pattern", r.pattern.map .str)]

/-- The encoding of rules for booleans. -/
def BoolRules.encode (r : BoolRules) : Json := .ofOptional [("const", r.const.map .bool)]

/-- The encoding of rules for enum values. -/
def EnumRules.encode (r : EnumRules) : Json := .ofOptional [
  ("const", r.const.map RuleEncoding.encode),
  ("defined_only", some (.bool r.definedOnly)),
  ("in", encodeListed RuleEncoding.encode r.among),
  ("not_in", encodeListed RuleEncoding.encode r.notAmong)]

/-- The encoding of rules for numbers. -/
def NumericRules.encode {α : Type} [RuleEncoding α] (r : NumericRules α) : Json := .ofOptional [
  ("const", r.const.map RuleEncoding.encode),
  ("gt", r.greater.map RuleEncoding.encode),
  ("gte", r.atLeast.map RuleEncoding.encode),
  ("lt", r.less.map RuleEncoding.encode),
  ("lte", r.atMost.map RuleEncoding.encode),
  ("in", encodeListed RuleEncoding.encode r.among),
  ("not_in", encodeListed RuleEncoding.encode r.notAmong)]

mutual

/-- The encoding of all rules of a field. -/
def FieldRules.encode : FieldRules → Json
  | { required, string, bytes, bool, enum, int32, sint32, sfixed32, int64, sint64, sfixed64, uint32,
      fixed32, uint64, fixed64, float, double, repeated, map } => .ofOptional [
    ("required", some (.bool required)),
    ("string", string.map (·.encode)),
    ("bytes", bytes.map (·.encode)),
    ("bool", bool.map (·.encode)),
    ("enum", enum.map (·.encode)),
    ("int32", int32.map (·.encode)),
    ("sint32", sint32.map (·.encode)),
    ("sfixed32", sfixed32.map (·.encode)),
    ("int64", int64.map (·.encode)),
    ("sint64", sint64.map (·.encode)),
    ("sfixed64", sfixed64.map (·.encode)),
    ("uint32", uint32.map (·.encode)),
    ("fixed32", fixed32.map (·.encode)),
    ("uint64", uint64.map (·.encode)),
    ("fixed64", fixed64.map (·.encode)),
    ("float", float.map (·.encode)),
    ("double", double.map (·.encode)),
    ("repeated", FieldRules.encodeRepeated repeated),
    ("map", FieldRules.encodeMap map)]

/-- The encoding of rules for lists. -/
def FieldRules.encodeRepeated : Option (RepeatedRules FieldRules) → Option Json
  | none => none
  | some { minItems, maxItems, unique, items } => some (.ofOptional [
    ("min_items", minItems.map .ofSize),
    ("max_items", maxItems.map .ofSize),
    ("unique", some (.bool unique)),
    ("items", FieldRules.encodeInner items)])

/-- The encoding of rules for maps. -/
def FieldRules.encodeMap : Option (MapRules FieldRules) → Option Json
  | none => none
  | some { minPairs, maxPairs, values } => some (.ofOptional [
    ("min_pairs", minPairs.map .ofSize),
    ("max_pairs", maxPairs.map .ofSize),
    ("values", FieldRules.encodeInner values)])

/-- The encoding of rules for items or values. -/
def FieldRules.encodeInner : Option FieldRules → Option Json
  | none => none
  | some rules => some rules.encode

end

/-- The encoding of annotations. -/
def Annotations.encode (a : Annotations) : Json :=
  .ofOptional [("description", a.description.map .str)]

mutual

/-- The encoding of a field. -/
def Field.encode : Field → Json
  | { name, jsonName?, kind, cardinality, presence, typeName?, mapValue, annotations, rules } =>
    .ofOptional [
      ("name", some (.str name)),
      ("json_name", jsonName?.map .str),
      ("kind", some (.str kind.name)),
      ("cardinality", some (.str cardinality.name)),
      ("presence", some (.bool presence)),
      ("type_name", typeName?.map .str),
      ("map_value", Field.encodeMapValue mapValue),
      ("options", annotations.map (·.encode)),
      ("rules", rules.map (·.encode))]

/-- The encoding of the values of a map field. -/
def Field.encodeMapValue : Option Field → Option Json
  | none => none
  | some value => some value.encode

end

/-- The encoding of a message type. -/
def MessageType.encode (m : MessageType) : Json := .obj [
  ("full_name", .str m.declaredName),
  ("fields", .arr (m.fields.map (·.encode)))]

/-- The encoding of an enum value. -/
def EnumValue.encode (v : EnumValue) : Json := .obj [
  ("name", .str v.name),
  ("number", RuleEncoding.encode v.number)]

/-- The encoding of an enum type. -/
def EnumType.encode (e : EnumType) : Json := .obj [
  ("full_name", .str e.declaredName),
  ("values", .arr (e.values.map (·.encode)))]

/-- The encoding of a descriptor set. -/
def DescriptorSet.encode (s : DescriptorSet) : Json := .obj [
  ("messages", .arr (s.messages.map (·.encode))),
  ("enums", .arr (s.enums.map (·.encode)))]

end MessageSchema
