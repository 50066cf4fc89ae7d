import MessageSchema.Number.Integer
import MessageSchema.Number.Binary

/-!
# Validation rules

The rules attached to a field: one set of rules per kind of value, and rules for lists and maps,
which hold rules for their items and values in turn. Only rules that JSON Schema can state have an
effect; the others are kept so that descriptors can be written again as they were read.
-/

namespace MessageSchema

/-- Rules for strings. -/
structure StringRules where
  const : Option String := none
  minLength : Option Unsigned64 := none
  maxLength : Option Unsigned64 := none
  pattern : Option String := none
  startsWith : Option String := none
  endsWith : Option String := none
  contains : Option String := none
  among : List String := []
  notAmong : List String := []
  email : Bool := false
  hostname : Bool := false
  uri : Bool := false
  deriving DecidableEq

/-- Rules for bytes. -/
structure BytesRules where
  const : Option (List UInt8) := none
  minLength : Option Unsigned64 := none
  maxLength : Option Unsigned64 := none
  pattern : Option String := none
  deriving DecidableEq

/-- Rules for booleans. -/
structure BoolRules where
  const : Option Bool := none
  deriving DecidableEq

/-- Rules for enum values, which are given by number. -/
structure EnumRules where
  const : Option Signed32 := none
  definedOnly : Bool := false
  among : List Signed32 := []
  notAmong : List Signed32 := []
  deriving DecidableEq

/-- Rules for numbers of one type. -/
structure NumericRules (α : Type) where
  const : Option α := none
  greater : Option α := none
  atLeast : Option α := none
  less : Option α := none
  atMost : Option α := none
  among : List α := []
  notAmong : List α := []
  deriving DecidableEq

/-- Rules for lists; `ρ` is the type of the rules for each item. -/
structure RepeatedRules (ρ : Type) where
  minItems : Option Unsigned64 := none
  maxItems : Option Unsigned64 := none
  unique : Bool := false
  items : Option ρ := none

/-- Rules for maps; `ρ` is the type of the rules for each value. -/
structure MapRules (ρ : Type) where
  minPairs : Option Unsigned64 := none
  maxPairs : Option Unsigned64 := none
  values : Option ρ := none

/-- All rules attached to a field. -/
structure FieldRules where
  required : Bool := false
  string : Option StringRules := none
  bytes : Option BytesRules := none
  bool : Option BoolRules := none
  enum : Option EnumRules := none
  int32 : Option (NumericRules Signed32) := none
  sint32 : Option (NumericRules Signed32) := none
  sfixed32 : Option (NumericRules Signed32) := none
  int64 : Option (NumericRules Signed64) := none
  sint64 : Option (NumericRules Signed64) := none
  sfixed64 : Option (NumericRules Signed64) := none
  uint32 : Option (NumericRules Unsigned32) := none
  fixed32 : Option (NumericRules Unsigned32) := none
  uint64 : Option (NumericRules Unsigned64) := none
  fixed64 : Option (NumericRules Unsigned64) := none
  float : Option (NumericRules Single) := none
  double : Option (NumericRules Double) := none
  repeated : Option (RepeatedRules FieldRules) := none
  map : Option (MapRules FieldRules) := none

namespace FieldRules

instance : Inhabited FieldRules := ⟨{}⟩

/-- The least length of strings, if there is one. -/
def minLength (rules : FieldRules) : Option Unsigned64 := rules.string.bind (·.minLength)

end FieldRules

end MessageSchema
