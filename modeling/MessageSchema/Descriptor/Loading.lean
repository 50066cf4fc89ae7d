import MessageSchema.Json.Reader
import MessageSchema.Descriptor.Decoding
import MessageSchema.Descriptor.Pool

/-!
# Loading descriptors

A pool is loaded from JSON text. Reading the text itself, or fetching it, can fail before that; the
exit code tells the two apart.
-/

namespace MessageSchema

/-- Why there is no pool. -/
inductive LoadError where
  | fileNotFound (path : String)
  | cannotRead (path reason : String)
  /-- A server does not answer, or not with a descriptor set. -/
  | network (url reason : String)
  /-- The text is no JSON, or not that of a descriptor set. -/
  | invalidJson
  | invalidSet (cause : DescriptorError)
  deriving DecidableEq

namespace LoadError

/-- The error in words. -/
def message : LoadError → String
  | fileNotFound path => "file not found: " ++ path
  | cannotRead path reason => "cannot read " ++ path ++ ": " ++ reason
  | network url reason => "failed to fetch " ++ url ++ ": " ++ reason
  | invalidJson => "invalid descriptor JSON"
  | invalidSet cause => "invalid descriptor set: " ++ cause.message

/-- Three if the source cannot be read, two if it is not good. -/
def exitCode : LoadError → Nat
  | fileNotFound _ | cannotRead _ _ | network _ _ => 3
  | invalidJson | invalidSet _ => 2

end LoadError

/-- The descriptor set that a JSON text describes. -/
def DescriptorSet.read? [DecimalRounding] (text : String) : Option DescriptorSet :=
  (Written.read? text).bind DescriptorSet.decode?

/-- The pool that a JSON text describes. -/
def Pool.read [DecimalRounding] (text : String) : Except LoadError Pool :=
  match DescriptorSet.read? text with
  | none => .error .invalidJson
  | some set => (Pool.ofSet set).mapError .invalidSet

/-- Whether a source is to be fetched from a server. -/
def isUrl (source : String) : Bool := source.startsWith "http://" || source.startsWith "https://"

end MessageSchema
