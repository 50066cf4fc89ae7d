import MessageSchema.Descriptor.Basic
import MessageSchema.Schema.WellKnown
import MessageSchema.Text.Shown

/-!
# Descriptor pools

A pool is a descriptor set in which every type has a name of its own and every field refers to a
type that is there. `DescriptorSet.offence?` finds the first thing that keeps a set from being a
pool: a name declared twice comes before any field, and fields come in the order in which they are
declared.
-/

namespace MessageSchema

/-- A message of a pool as diagnostics show it. -/
def MessageType.shown (m : MessageType) : String :=
  "MessageDescriptor(" ++ Shown.string m.fullName ++ ")"

/-- What keeps a descriptor set from being a pool. Messages are named as they are declared. -/
inductive DescriptorError where
  | duplicateType (name : String)
  | unresolvedType (message field typeName : String)
  | missingTypeName (message field : String) (kind : Kind)
  | missingMapValue (message field : String)
  | emptyFieldName (message : String)
  deriving DecidableEq

/-- The error in words. -/
def DescriptorError.message : DescriptorError → String
  | duplicateType name => "duplicate type name '" ++ name ++ "'"
  | unresolvedType message field typeName =>
    "field " ++ message ++ "." ++ field ++ " references unknown type '" ++ typeName ++ "'"
  | missingTypeName message field kind =>
    "field " ++ message ++ "." ++ field ++ " has kind " ++ kind.name ++ " but no type_name"
  | missingMapValue message field => "map field " ++ message ++ "." ++ field ++ " has no map_value"
  | emptyFieldName message => "message '" ++ message ++ "' has a field with an empty name"

/-- The first name of a list that repeats one of `seen` or an earlier one. -/
def firstRepeated? (seen : List String) : List String → Option String
  | [] => none
  | name :: rest => if name ∈ seen then some name else firstRepeated? (name :: seen) rest

namespace DescriptorSet

/-- A message type of the set. -/
abbrev Message (set : DescriptorSet) : Type := { m : MessageType // m ∈ set.messages }

/-- The message type of a name, which may have a leading dot. -/
def message? (set : DescriptorSet) (name : String) : Option MessageType :=
  set.messages.find? (·.fullName == plainName name)

/-- The enum type of a name, which may have a leading dot. -/
def enum? (set : DescriptorSet) (name : String) : Option EnumType :=
  set.enums.find? (·.fullName == plainName name)

/-- The names of all declared types, message types first. -/
def names (set : DescriptorSet) : List String :=
  set.messages.map (·.fullName) ++ set.enums.map (·.fullName)

/-- Whether a field of a kind may refer to a type of the given name. -/
def resolves (set : DescriptorSet) (kind : Kind) (typeName : String) : Bool :=
  match kind with
  | .message => (WellKnown.ofName? typeName).isSome || (set.message? typeName).isSome
  | .enum => (set.enum? typeName).isSome
  | _ => true

/-- What is wrong with the type that a field refers to. -/
def referenceOffence? (set : DescriptorSet) (message field : String) (kind : Kind)
    (typeName? : Option String) : Option DescriptorError :=
  if kind.isNamed then
    match typeName? with
    | none => some (.missingTypeName message field kind)
    | some typeName =>
      if set.resolves kind typeName then none
      else some (.unresolvedType message field typeName)
  else none

mutual

/-- What is wrong with a field of a message. Of a map field only the values count. -/
def fieldOffence? (set : DescriptorSet) (message : String) : Field → Option DescriptorError
  | { name, kind, cardinality, typeName?, mapValue, .. } =>
    if name = "" then some (.emptyFieldName message)
    else if cardinality = .map then set.mapValueOffence? message name mapValue
    else set.referenceOffence? message name kind typeName?

/-- What is wrong with the values of a map field. -/
def mapValueOffence? (set : DescriptorSet) (message field : String) :
    Option Field → Option DescriptorError
  | none => some (.missingMapValue message field)
  | some value => set.fieldOffence? message value

end

/-- The first thing that keeps the set from being a pool. -/
def offence? (set : DescriptorSet) : Option DescriptorError :=
  match firstRepeated? [] set.names with
  | some name => some (.duplicateType name)
  | none =>
    set.messages.findSome? fun message =>
      message.fields.findSome? (set.fieldOffence? message.declaredName)

/-- The message type that a field refers to. -/
def messageOf? (set : DescriptorSet) (f : Field) : Option MessageType :=
  f.typeName.bind set.message?

/-- The enum type that a field refers to. -/
def enumOf? (set : DescriptorSet) (f : Field) : Option EnumType :=
  f.typeName.bind set.enum?

theorem mem_of_message? {set : DescriptorSet} {name : String} {m : MessageType}
    (h : set.message? name = some m) : m ∈ set.messages :=
  List.mem_of_find?_eq_some h

theorem mem_of_messageOf? {set : DescriptorSet} {f : Field} {m : MessageType}
    (h : set.messageOf? f = some m) : m ∈ set.messages := by
  obtain ⟨name, -, hname⟩ := Option.bind_eq_some_iff.1 h
  exact mem_of_message? hname

end DescriptorSet

/-- A descriptor set in which nothing is missing and no name is declared twice. -/
structure Pool where
  set : DescriptorSet
  sound : set.offence? = none

/-- The pool of a descriptor set, or the first thing that is wrong with it. -/
def Pool.ofSet (set : DescriptorSet) : Except DescriptorError Pool :=
  match h : set.offence? with
  | some e => .error e
  | none => .ok ⟨set, h⟩

end MessageSchema
