import MessageSchema.Descriptor.Basic

/-!
# Describing types step by step

Fields and types are described from a plain one by changes of one thing at a time.
-/

namespace MessageSchema

namespace Field

/-- A field of a kind, with one value and nothing else said about it. -/
def plain (name : String) (kind : Kind) : Field := { name, kind }

/-- The field with a type name. -/
def withTypeName (f : Field) (typeName : String) : Field := { f with typeName? := some typeName }

/-- A field whose values are messages of a type. -/
def ofMessage (name typeName : String) : Field := (plain name .message).withTypeName typeName

/-- A field whose values are those of an enum type. -/
def ofEnum (name typeName : String) : Field := (plain name .enum).withTypeName typeName

/-- The field as a list. -/
def asList (f : Field) : Field := { f with cardinality := .repeated }

/-- The field as one that must be there. -/
def asRequired (f : Field) : Field := { f with cardinality := .required }

/-- The field with absent values told apart. -/
def asOptional (f : Field) : Field := { f with presence := true }

/-- The field with a description. -/
def withDescription (f : Field) (text : String) : Field :=
  { f with annotations := some { description := some text } }

/-- The field with a JSON name of its own. -/
def withJsonName (f : Field) (name : String) : Field := { f with jsonName? := some name }

/-- The field with rules. -/
def withRules (f : Field) (rules : FieldRules) : Field := { f with rules := some rules }

end Field

/-- Rules that say only that a field must be there. -/
def FieldRules.requiredOnly : FieldRules := { required := true }

namespace DescriptorSet

/-- The set with one more message type. -/
def addMessage (set : DescriptorSet) (m : MessageType) : DescriptorSet :=
  { set with messages := set.messages ++ [m] }

/-- The set with one more enum type. -/
def addEnum (set : DescriptorSet) (e : EnumType) : DescriptorSet :=
  { set with enums := set.enums ++ [e] }

end DescriptorSet

end MessageSchema
