import MessageSchema.Schema.Keywords
import MessageSchema.Schema.WellKnown
import MessageSchema.Descriptor.Pool

/-!
# Putting schemas together

How the schema of a field is made from the schema of its values, and the schema of a message from
those of its fields. A description and rules are added to the schema they belong to; explicit
presence allows null; a well-known type is used as it is and takes no additions.
-/

namespace MessageSchema

/-- The dialect that every schema of a message names. -/
def dialect : String := "https://json-schema.org/draft/2020-12/schema"

/-- The schema of a message that stands inside its own expansion. -/
def bareObject : Json := .obj [("type", .str "object")]

namespace Json

/-- Whether a branch of a `oneOf` is for null. -/
def isNullBranch (branch : Json) : Bool := branch.get? "type" = some (.str "null")

/-- A `type` that allows null too. -/
def typeOrNull : Json → Json
  | .str type => .strings [type, "null"]
  | .arr types => if types.contains (.str "null") then .arr types else .arr (types ++ [.str "null"])
  | other => other

/-- Branches of which one is for null. -/
def branchesOrNull : Json → Json
  | .arr branches =>
    if branches.any isNullBranch then .arr branches
    else .arr (branches ++ [.obj [("type", .str "null")]])
  | other => other

/-- Changes the value under a key, if there is one. -/
def change (key : String) (f : Json → Json) (value : Json) : Json :=
  match value.get? key with
  | some old => value.put key (f old)
  | none => value

/-- A schema that allows null too. -/
def orNull (schema : Json) : Json :=
  (schema.change "type" typeOrNull).change "oneOf" branchesOrNull

/-- A schema with a description, unless that is empty. -/
def withDescription (description : Option String) (schema : Json) : Json :=
  match description with
  | some text => if text = "" then schema else schema.put "description" (.str text)
  | none => schema

end Json

namespace Field

/-- The well-known type that the field refers to. -/
def wellKnown? (f : Field) : Option WellKnown :=
  if f.kind = .message then f.typeName.bind WellKnown.ofName? else none

/-- The rules for lists. -/
def repeatedRules (f : Field) : Option (RepeatedRules FieldRules) := f.rules.bind (·.repeated)

/-- The rules for maps. -/
def mapRules (f : Field) : Option (MapRules FieldRules) := f.rules.bind (·.map)

/-- Whether null stands for an absent value. -/
def isNullable (f : Field) : Bool := f.presence && f.cardinality ≠ .required

/-- Whether the field must be there: it is declared so, its rules say so, or it is a string whose
rules ask for at least one character. -/
def isRequired (f : Field) : Bool :=
  f.cardinality = .required ||
    f.rules.any fun rules =>
      rules.required || (f.kind = .string && rules.minLength.any fun n => 1 ≤ n.val)

/-- The schema of a field with one value, from the schema of the value. -/
def singleSchema (set : DescriptorSet) (f : Field) (value : Json) : Json :=
  let described := value.withDescription f.description
  let ruled := f.rules.elim described fun rules => described.withRules rules f.kind (set.enumOf? f)
  if f.isNullable then ruled.orNull else ruled

/-- The schema of a list, from the schema of an item. Null stands for an empty list too. -/
def listSchema (set : DescriptorSet) (f : Field) (item : Json) : Json :=
  let items :=
    match f.wellKnown?, f.repeatedRules.bind (·.items) with
    | none, some rules => item.withRules rules f.kind (set.enumOf? f)
    | _, _ => item
  let list := Json.obj [("type", .strings ["array", "null"]), ("items", items)]
  (list.withDescription f.description).withRepeatedRules f.repeatedRules

/-- The schema of a map, from the field that describes its values and their schema. -/
def mapSchema (set : DescriptorSet) (f value : Field) (schema : Json) : Json :=
  let values :=
    match value.wellKnown?, f.mapRules.bind (·.values) with
    | none, some rules => schema.withRules rules value.kind (set.enumOf? value)
    | _, _ => schema
  let map := Json.obj [("type", .str "object"), ("additionalProperties", values)]
  (map.withDescription f.description).withMapRules f.mapRules

end Field

namespace MessageType

/-- The JSON names of the fields that must be there, in order. -/
def requiredNames (m : MessageType) : List String :=
  (m.fields.filter (·.isRequired)).map (·.jsonName)

/-- The schema of a message, from the schemas of its fields in order. -/
def shell (m : MessageType) (schemas : List Json) : Json :=
  .obj ([("$schema", .str dialect),
      ("title", .str m.name),
      ("type", .str "object"),
      ("properties", .obj (Members.putAll [] ((m.fields.map (·.jsonName)).zip schemas))),
      ("additionalProperties", .bool false)] ++
    listed "required" (m.requiredNames.map .str))

end MessageType

end MessageSchema
