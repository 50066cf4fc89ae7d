import MessageSchema.Descriptor.Kind

/-!
# Why a schema cannot be generated

A cause, possibly inside the field of a message, that one inside another and so on. The text names
the outermost field first.
-/

namespace MessageSchema

/-- Why there is no schema. -/
inductive SchemaError where
  | messageNotFound (name : String)
  | unsupportedKind (kind : Kind)
  | unresolvedType (typeName : String)
  | missingMapValue (field : String)
  | inField (message field : String) (cause : SchemaError)
  deriving DecidableEq

namespace SchemaError

/-- The error in words. -/
def message : SchemaError → String
  | messageNotFound name => "message descriptor not found: " ++ name
  | unsupportedKind kind => "unsupported field kind: " ++ kind.name
  | unresolvedType typeName => "unresolved type reference '" ++ typeName ++ "'"
  | missingMapValue field => "map field " ++ field ++ " has no value descriptor"
  | inField message field cause =>
    "error processing field " ++ field ++ " of " ++ message ++ ": " ++ cause.message

/-- The cause without the fields around it. -/
def root : SchemaError → SchemaError
  | inField _ _ cause => cause.root
  | other => other

/-- The names of the fields around the cause, the outermost first. -/
def fields : SchemaError → List String
  | inField _ field cause => field :: cause.fields
  | _ => []

/-- The names of the fields around the cause, with dots between them. -/
def path (e : SchemaError) : String := ".".intercalate e.fields

end SchemaError

end MessageSchema
