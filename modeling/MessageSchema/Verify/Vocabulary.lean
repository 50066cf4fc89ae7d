import MessageSchema.Json.Printer
import MessageSchema.Schema.Assembly
import MessageSchema.Verify.Pattern

/-!
# The vocabulary of JSON Schema

What the keywords of JSON Schema ask of their values: some take a schema, a list of schemas or an
object of schemas, others a number, a count, a string and so on. A JSON value is a valid schema if
it is a boolean, or an object whose keywords all have values of their shape, in the schemas inside
it as well. Patterns must be regular expressions where they are applied; a schema that is only kept
for reference is not applied. Keywords that are not known take any value.
-/

namespace MessageSchema

/-- What is wrong with a schema. -/
inductive Fault where
  /-- It refers to another schema. -/
  | reference
  | notPattern (text : String)
  | notUnique (value : Json)
  | notOfType (value : Json) (types : List String)
  | tooSmall (value : Json) (minimum : String)
  | tooFew (value : Json)
  | noAlternative (value : Json)
  | noMatch (value : Json) (pattern : String)
  | unknownDialect (name : String)
  deriving DecidableEq

/-- The fault in words. -/
def Fault.message : Fault → String
  | reference => "contains $ref"
  | notPattern text => (Json.str text).compact ++ " is not a \"regex\""
  | notUnique value => value.compact ++ " has non-unique elements"
  | notOfType value [type] => value.compact ++ " is not of type " ++ (Json.str type).compact
  | notOfType value types =>
    value.compact ++ " is not of types " ++
      ", ".intercalate (types.map fun type => (Json.str type).compact)
  | tooSmall value minimum => value.compact ++ minimum
  | tooFew value => value.compact ++ " has less than 1 item"
  | noAlternative value =>
    value.compact ++ " is not valid under any of the schemas listed in the 'anyOf' keyword"
  | noMatch value pattern => value.compact ++ " does not match " ++ (Json.str pattern).compact
  | unknownDialect name => "Unknown specification: " ++ name

/-- What a keyword asks of its value. -/
inductive Shape where
  /-- Anything. -/
  | any
  | schema
  /-- A schema that is kept and not applied. -/
  | kept
  /-- At least one schema in a list. -/
  | schemas
  /-- An object of schemas. -/
  | named
  /-- An object of schemas that are kept and not applied. -/
  | namedKept
  /-- An object of schemas whose keys are patterns. -/
  | matched
  /-- An object of schemas or lists of strings. -/
  | dependencies
  /-- An object of lists of strings. -/
  | namedStrings
  | string
  /-- The name of a dialect. -/
  | dialect
  | pattern
  /-- A string that starts with a letter and holds no blanks. -/
  | anchor
  /-- A string whose only fragment is empty. -/
  | identifier
  /-- Different strings in a list. -/
  | strings
  | number
  | positive
  /-- An integer that is not negative. -/
  | count
  | bool
  | list
  /-- The name of a type, or different names in a list that is not empty. -/
  | type
  /-- An object of booleans. -/
  | namedBools
  deriving DecidableEq

/-- The keywords with a shape of their own. -/
def vocabulary : List (String × Shape) := [
  ("$id", .identifier), ("$schema", .dialect), ("$anchor", .anchor), ("$dynamicRef", .string),
  ("$dynamicAnchor", .anchor), ("$vocabulary", .namedBools), ("$comment", .string),
  ("$defs", .namedKept), ("definitions", .namedKept), ("dependencies", .dependencies),
  ("$recursiveAnchor", .anchor), ("$recursiveRef", .string),
  ("prefixItems", .schemas), ("items", .schema), ("contains", .schema),
  ("additionalProperties", .schema), ("properties", .named), ("patternProperties", .matched),
  ("dependentSchemas", .named), ("propertyNames", .schema), ("if", .schema), ("then", .schema),
  ("else", .schema), ("allOf", .schemas), ("anyOf", .schemas), ("oneOf", .schemas),
  ("not", .schema), ("unevaluatedItems", .schema), ("unevaluatedProperties", .schema),
  ("type", .type), ("enum", .list), ("multipleOf", .positive), ("maximum", .number),
  ("exclusiveMaximum", .number), ("minimum", .number), ("exclusiveMinimum", .number),
  ("maxLength", .count), ("minLength", .count), ("pattern", .pattern), ("maxItems", .count),
  ("minItems", .count), ("uniqueItems", .bool), ("maxContains", .count), ("minContains", .count),
  ("maxProperties", .count), ("minProperties", .count), ("required", .strings),
  ("dependentRequired", .namedStrings), ("title", .string), ("description", .string),
  ("deprecated", .bool), ("readOnly", .bool), ("writeOnly", .bool), ("examples", .list),
  ("format", .string), ("contentEncoding", .string), ("contentMediaType", .string),
  ("contentSchema", .kept)]

/-- What a keyword asks of its value, in a schema with the given keywords: the branches of a
condition are applied only together with the condition. -/
def Shape.ofKeyword (siblings : List String) (key : String) : Shape :=
  if (key = "then" ∨ key = "else") ∧ "if" ∉ siblings then .kept
  else if key = "if" ∧ "then" ∉ siblings ∧ "else" ∉ siblings then .kept
  else (vocabulary.lookup key).getD .any

/-- The names of types. -/
def typeNames : List String :=
  ["array", "boolean", "integer", "null", "number", "object", "string"]

/-- Whether a number is a whole number, however it is written. -/
def Number.isWhole : Number → Bool
  | .int _ => true
  | .double d => d.ratio.1 % d.ratio.2 = 0
  | .single s => s.ratio.1 % s.ratio.2 = 0

/-- Whether a number is below zero. -/
def Number.isNegative : Number → Bool
  | .int n => n.val < 0
  | .double d => d.negative && !d.isZero
  | .single s => s.negative && !s.isZero

/-- Whether a number is zero. -/
def Number.isZero : Number → Bool
  | .int n => n.val = 0
  | .double d => d.isZero
  | .single s => s.isZero

namespace Json

/-- What keeps a value from being a list of different strings. -/
def stringsFault? : Json → Option Fault
  | .arr items =>
    match items.find? fun item => match item with | .str _ => false | _ => true with
    | some item => some (.notOfType item ["string"])
    | none => if items.Nodup then none else some (.notUnique (.arr items))
  | other => some (.notOfType other ["array"])

/-- What keeps a value from being a boolean. -/
def boolFault? : Json → Option Fault
  | .bool _ => none
  | other => some (.notOfType other ["boolean"])

/-- What keeps a value from naming types. -/
def typeFault? : Json → Option Fault
  | .str name => if name ∈ typeNames then none else some (.noAlternative (.str name))
  | .arr items =>
    if items ≠ [] ∧ items.Nodup ∧ ∀ item ∈ items, item ∈ typeNames.map Json.str then none
    else some (.noAlternative (.arr items))
  | other => some (.noAlternative other)

/-- The name of the dialect, with any number of empty fragments after it. -/
def isDialect (text : String) : Bool :=
  String.ofList (text.toList.reverse.dropWhile (· = '#')).reverse = dialect

/-- Letters, digits and a few signs, not starting with a digit or a dash or a dot. -/
def isAnchor (text : String) : Bool :=
  match text.toList with
  | [] => false
  | c :: rest =>
    (c.isAlpha || c = '_') &&
      rest.all fun c => c.isAlphanum || c = '_' || c = '-' || c = '.'

/-- No fragment, or an empty one at the end. -/
def isIdentifier (text : String) : Bool :=
  let cs := text.toList
  (if cs.getLast? = some '#' then cs.dropLast else cs).all (· ≠ '#')

/-- What keeps a value from having a shape that holds no schemas. Patterns count only where they
are `applied`. -/
def plainFault? [PatternSyntax] (applied : Bool) : Shape → Json → Option Fault
  | .string, .str _ => none
  | .string, other => some (.notOfType other ["string"])
  | .dialect, .str text => if isDialect text then none else some (.unknownDialect text)
  | .dialect, other => some (.notOfType other ["string"])
  | .pattern, .str text =>
    if applied && !PatternSyntax.isPattern text then some (.notPattern text) else none
  | .pattern, other => some (.notOfType other ["string"])
  | .anchor, .str text =>
    if isAnchor text then none else some (.noMatch (.str text) "^[A-Za-z_][-A-Za-z0-9._]*$")
  | .anchor, other => some (.notOfType other ["string"])
  | .identifier, .str text =>
    if isIdentifier text then none else some (.noMatch (.str text) "^[^#]*#?$")
  | .identifier, other => some (.notOfType other ["string"])
  | .strings, value => stringsFault? value
  | .number, .num _ => none
  | .number, other => some (.notOfType other ["number"])
  | .positive, .num n =>
    if n.isNegative || n.isZero then
      some (.tooSmall (.num n) " is less than or equal to the minimum of 0")
    else none
  | .positive, other => some (.notOfType other ["number"])
  | .count, .num n =>
    if !n.isWhole then some (.notOfType (.num n) ["integer"])
    else if n.isNegative then some (.tooSmall (.num n) " is less than the minimum of 0")
    else none
  | .count, other => some (.notOfType other ["integer"])
  | .bool, value => boolFault? value
  | .list, .arr _ => none
  | .list, other => some (.notOfType other ["array"])
  | .type, value => typeFault? value
  | .namedStrings, .obj members => members.findSome? fun (_, value) => stringsFault? value
  | .namedStrings, other => some (.notOfType other ["object"])
  | .namedBools, .obj members => members.findSome? fun (_, value) => boolFault? value
  | .namedBools, other => some (.notOfType other ["object"])
  | _, _ => none

mutual

/-- What keeps a value from being a schema. -/
def schemaFault? [PatternSyntax] (applied : Bool) : Json → Option Fault
  | .bool _ => none
  | .obj members => keywordsFault? applied (members.map Prod.fst) members
  | other => some (.notOfType other ["boolean", "object"])

/-- What is wrong with the values of the keywords of a schema. -/
def keywordsFault? [PatternSyntax] (applied : Bool) (siblings : List String) :
    Members → Option Fault
  | [] => none
  | (key, value) :: rest =>
    let fault :=
      match Shape.ofKeyword siblings key with
      | .schema => schemaFault? applied value
      | .kept => schemaFault? false value
      | .schemas =>
        match value with
        | .arr [] => some (.tooFew (.arr []))
        | .arr items => schemasFault? applied items
        | other => some (.notOfType other ["array"])
      | .named =>
        match value with
        | .obj members => namedFault? applied members
        | other => some (.notOfType other ["object"])
      | .namedKept =>
        match value with
        | .obj members => namedFault? false members
        | other => some (.notOfType other ["object"])
      | .matched =>
        match value with
        | .obj members =>
          match (members.map Prod.fst).find? fun key =>
            applied && !PatternSyntax.isPattern key with
          | some key => some (.notPattern key)
          | none => namedFault? applied members
        | other => some (.notOfType other ["object"])
      | .dependencies =>
        match value with
        | .obj members => dependenciesFault? applied members
        | other => some (.notOfType other ["object"])
      | shape => plainFault? applied shape value
    fault.or (keywordsFault? applied siblings rest)

/-- What is wrong with a list of schemas. -/
def schemasFault? [PatternSyntax] (applied : Bool) : List Json → Option Fault
  | [] => none
  | schema :: rest => (schemaFault? applied schema).or (schemasFault? applied rest)

/-- What is wrong with the schemas of an object. -/
def namedFault? [PatternSyntax] (applied : Bool) : Members → Option Fault
  | [] => none
  | (_, schema) :: rest => (schemaFault? applied schema).or (namedFault? applied rest)

/-- What is wrong with an object of schemas or lists of strings. -/
def dependenciesFault? [PatternSyntax] (applied : Bool) : Members → Option Fault
  | [] => none
  | (_, .arr items) :: rest => (stringsFault? (.arr items)).or (dependenciesFault? applied rest)
  | (_, schema) :: rest => (schemaFault? applied schema).or (dependenciesFault? applied rest)

end

mutual

/-- Whether a key stands anywhere in a value. -/
def mentions (key : String) : Json → Bool
  | .arr items => itemsMention key items
  | .obj members => membersMention key members
  | _ => false

/-- Whether a key stands anywhere in a list of values. -/
def itemsMention (key : String) : List Json → Bool
  | [] => false
  | item :: rest => item.mentions key || itemsMention key rest

/-- Whether a key stands among members or anywhere in their values. -/
def membersMention (key : String) : Members → Bool
  | [] => false
  | (name, value) :: rest => name == key || value.mentions key || membersMention key rest

end

/-- Whether a value holds the keyword of a reference. -/
def containsRef (value : Json) : Bool := value.mentions "$ref"

/-- What keeps a value from being a valid schema without references. -/
def fault? [PatternSyntax] (schema : Json) : Option Fault :=
  if schema.containsRef then some .reference
  else schemaFault? true schema

end Json

end MessageSchema
