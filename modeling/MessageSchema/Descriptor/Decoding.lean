import MessageSchema.Json.Record
import MessageSchema.Text.Base64
import MessageSchema.Descriptor.Basic

/-!
# Descriptors from JSON

How descriptors are read. Fields of structures have defaults where that makes sense; the names of
fields, types and enum values, the kind of a field and the number of an enum value must be given.
An integer is never read from a number with a fraction or an exponent; a floating-point number is
read from any number.
-/

namespace MessageSchema

namespace Written

/-- A boolean. -/
def bool? : Written → Option Bool
  | .bool value => some value
  | _ => none

/-- A string. -/
def string? : Written → Option String
  | .str value => some value
  | _ => none

/-- An integer of a range. -/
def integer? {least greatest : Int} : Written → Option (Ranged least greatest)
  | .num (.int n) => Ranged.ofInt? n.val
  | _ => none

/-- A 64-bit number. -/
def double? : Written → Option Double
  | .num (.int n) => (Binary.ofInt? n.val).map .finite
  | .num (.double d) => some (.finite d)
  | .num (.single s) => s.convert?.map .finite
  | _ => none

/-- A 32-bit number; one that is too large is infinite. -/
def single? : Written → Option Single
  | .num (.int n) => some (.ofInt n.val)
  | .num (.double d) => some (.ofBinary d)
  | .num (.single s) => some (.finite s)
  | _ => none

/-- Bytes in base64. -/
def bytes? : Written → Option (List UInt8)
  | .str text => Base64.decode? text.toList
  | _ => none

/-- A list. -/
def list? {α : Type} (decode? : Written → Option α) : Written → Option (List α)
  | .arr items => items.mapM decode?
  | _ => none

/-- A name, by itself or as the only key of an object with the value null. -/
def choice? {α : Type} (ofName? : String → Option α) : Written → Option α
  | .str name => ofName? name
  | .obj [(some name, .null)] => ofName? name
  | _ => none

end Written

open Written

/-- Numbers of rules as they are read from descriptors. -/
class RuleDecoding (α : Type) where
  decode? : Written → Option α

namespace RuleDecoding

instance : RuleDecoding Signed32 := ⟨integer?⟩
instance : RuleDecoding Unsigned32 := ⟨integer?⟩
instance : RuleDecoding Signed64 := ⟨integer?⟩
instance : RuleDecoding Unsigned64 := ⟨integer?⟩
instance : RuleDecoding Double := ⟨double?⟩
instance : RuleDecoding Single := ⟨single?⟩

end RuleDecoding

/-- Reads rules for strings. -/
def StringRules.decode? (w : Written) : Option StringRules := do
  let r ← w.record? ["const", "min_len", "max_len", "pattern", "prefix", "suffix", "contains", "in",
    "not_in", "email", "hostname", "uri"]
  return {
    const := ← r.optional? "const" string?
    minLength := ← r.optional? "min_len" integer?
    maxLength := ← r.optional? "max_len" integer?
    pattern := ← r.optional? "pattern" string?
    startsWith := ← r.optional? "prefix" string?
    endsWith := ← r.optional? "suffix" string?
    contains := ← r.optional? "contains" string?
    among := ← r.withDefault? "in" [] (list? string?)
    notAmong := ← r.withDefault? "not_in" [] (list? string?)
    email := ← r.withDefault? "email" false bool?
    hostname := ← r.withDefault? "hostname" false bool?
    uri := ← r.withDefault? "uri" false bool? }

/-- Reads rules for bytes. -/
def BytesRules.decode? (w : Written) : Option BytesRules := do
  let r ← w.record? ["const", "min_len", "max_len", "pattern"]
  return {
    const := ← r.optional? "const" bytes?
    minLength := ← r.optional? "min_len" integer?
    maxLength := ← r.optional? "max_len" integer?
    pattern := ← r.optional? "pattern" string? }

/-- Reads rules for booleans. -/
def BoolRules.decode? (w : Written) : Option BoolRules := do
  let r ← w.record? ["const"]
  return { const := ← r.optional? "const" bool? }

/-- Reads rules for enum values. -/
def EnumRules.decode? (w : Written) : Option EnumRules := do
  let r ← w.record? ["const", "defined_only", "in", "not_in"]
  return {
    const := ← r.optional? "const" integer?
    definedOnly := ← r.withDefault? "defined_only" false bool?
    among := ← r.withDefault? "in" [] (list? integer?)
    notAmong := ← r.withDefault? "not_in" [] (list? integer?) }

/-- Reads rules for numbers. -/
def NumericRules.decode? {α : Type} [RuleDecoding α] (w : Written) : Option (NumericRules α) := do
  let r ← w.record? ["const", "gt", "gte", "lt", "lte", "in", "not_in"]
  return {
    const := ← r.optional? "const" RuleDecoding.decode?
    greater := ← r.optional? "gt" RuleDecoding.decode?
    atLeast := ← r.optional? "gte" RuleDecoding.decode?
    less := ← r.optional? "lt" RuleDecoding.decode?
    atMost := ← r.optional? "lte" RuleDecoding.decode?
    among := ← r.withDefault? "in" [] (list? RuleDecoding.decode?)
    notAmong := ← r.withDefault? "not_in" [] (list? RuleDecoding.decode?) }

/-- Reads rules for lists, with a way to read the rules for items from anything smaller. -/
def RepeatedRules.decode? {ρ : Type} (w : Written)
    (items? : (value : Written) → sizeOf value < sizeOf w → Option ρ) :
    Option (RepeatedRules ρ) := do
  let r ← w.record? ["min_items", "max_items", "unique", "items"]
  return {
    minItems := ← r.optional? "min_items" integer?
    maxItems := ← r.optional? "max_items" integer?
    unique := ← r.withDefault? "unique" false bool?
    items := ← r.nested? "items" items? }

/-- Reads rules for maps, with a way to read the rules for values from anything smaller. -/
def MapRules.decode? {ρ : Type} (w : Written)
    (values? : (value : Written) → sizeOf value < sizeOf w → Option ρ) :
    Option (MapRules ρ) := do
  let r ← w.record? ["min_pairs", "max_pairs", "values"]
  return {
    minPairs := ← r.optional? "min_pairs" integer?
    maxPairs := ← r.optional? "max_pairs" integer?
    values := ← r.nested? "values" values? }

/-- Reads all rules of a field. -/
def FieldRules.decode? (w : Written) : Option FieldRules := do
  let r ← w.record? ["required", "string", "bytes", "bool", "enum", "int32", "sint32", "sfixed32",
    "int64", "sint64", "sfixed64", "uint32", "fixed32", "uint64", "fixed64", "float", "double",
    "repeated", "map"]
  return {
    required := ← r.withDefault? "required" false bool?
    string := ← r.optional? "string" StringRules.decode?
    bytes := ← r.optional? "bytes" BytesRules.decode?
    bool := ← r.optional? "bool" BoolRules.decode?
    enum := ← r.optional? "enum" EnumRules.decode?
    int32 := ← r.optional? "int32" NumericRules.decode?
    sint32 := ← r.optional? "sint32" NumericRules.decode?
    sfixed32 := ← r.optional? "sfixed32" NumericRules.decode?
    int64 := ← r.optional? "int64" NumericRules.decode?
    sint64 := ← r.optional? "sint64" NumericRules.decode?
    sfixed64 := ← r.optional? "sfixed64" NumericRules.decode?
    uint32 := ← r.optional? "uint32" NumericRules.decode?
    fixed32 := ← r.optional? "fixed32" NumericRules.decode?
    uint64 := ← r.optional? "uint64" NumericRules.decode?
    fixed64 := ← r.optional? "fixed64" NumericRules.decode?
    float := ← r.optional? "float" NumericRules.decode?
    double := ← r.optional? "double" NumericRules.decode?
    repeated := ← r.nested? "repeated" fun v _ =>
      RepeatedRules.decode? v fun u _ => FieldRules.decode? u
    map := ← r.nested? "map" fun v _ =>
      MapRules.decode? v fun u _ => FieldRules.decode? u }
termination_by sizeOf w

/-- Reads annotations. -/
def Annotations.decode? (w : Written) : Option Annotations := do
  let r ← w.record? ["description"]
  return { description := ← r.optional? "description" string? }

/-- Reads a field. -/
def Field.decode? (w : Written) : Option Field := do
  let r ← w.record? ["name", "json_name", "kind", "cardinality", "presence", "type_name",
    "map_value", "options", "rules"]
  return {
    name := ← r.required? "name" string?
    jsonName? := ← r.optional? "json_name" string?
    kind := ← r.required? "kind" (choice? Kind.ofName?)
    cardinality := ← r.withDefault? "cardinality" .singular (choice? Cardinality.ofName?)
    presence := ← r.withDefault? "presence" false bool?
    typeName? := ← r.optional? "type_name" string?
    mapValue := ← r.nested? "map_value" fun v _ => Field.decode? v
    annotations := ← r.optional? "options" Annotations.decode?
    rules := ← r.optional? "rules" FieldRules.decode? }
termination_by sizeOf w

/-- Reads a message type. -/
def MessageType.decode? (w : Written) : Option MessageType := do
  let r ← w.record? ["full_name", "fields"]
  return {
    declaredName := ← r.required? "full_name" string?
    fields := ← r.withDefault? "fields" [] (list? Field.decode?) }

/-- Reads an enum value. -/
def EnumValue.decode? (w : Written) : Option EnumValue := do
  let r ← w.record? ["name", "number"]
  return {
    name := ← r.required? "name" string?
    number := ← r.required? "number" integer? }

/-- Reads an enum type. -/
def EnumType.decode? (w : Written) : Option EnumType := do
  let r ← w.record? ["full_name", "values"]
  return {
    declaredName := ← r.required? "full_name" string?
    values := ← r.withDefault? "values" [] (list? EnumValue.decode?) }

/-- Reads a descriptor set. -/
def DescriptorSet.decode? (w : Written) : Option DescriptorSet := do
  let r ← w.record? ["messages", "enums"]
  return {
    messages := ← r.withDefault? "messages" [] (list? MessageType.decode?)
    enums := ← r.withDefault? "enums" [] (list? EnumType.decode?) }

end MessageSchema
