import MessageSchema.Json.Basic
import MessageSchema.Descriptor.Basic
import MessageSchema.Number.Shortest
import MessageSchema.Text.Base64

/-!
# Rules as keywords of JSON Schema

A set of rules states a list of keywords with their values, in the order in which they are put into
a schema; of one keyword stated twice the later value counts. A rule that JSON Schema cannot state
has no keyword, and a bound of zero counts as no bound. A field's rules state the keywords of the
set that belongs to its kind and no others.
-/

namespace MessageSchema

/-- A keyword with the value of a rule, if the rule is set. -/
def keyword {α : Type} (key : String) (toJson : α → Json) (rule : Option α) : Members :=
  (rule.map fun value => (key, toJson value)).toList

/-- A keyword that a flag turns on. -/
def flag (key : String) (value : Json) (isSet : Bool) : Members :=
  if isSet then [(key, value)] else []

/-- A keyword with a list of values, unless the list is empty. -/
def listed (key : String) (values : List Json) : Members :=
  if values.isEmpty then [] else [(key, .arr values)]

/-- The characters that have a meaning of their own in patterns. -/
def isPatternSign (c : Char) : Bool :=
  ['\\', '.', '+', '*', '?', '(', ')', '|', '[', ']', '\x7b', '\x7d', '^', '$', '#', '&', '-',
    '~'].contains c

/-- The pattern of a text: a backslash before each character that has a meaning of its own. -/
def literalPattern (cs : List Char) : List Char :=
  cs.flatMap fun c => if isPatternSign c then ['\\', c] else [c]

/-- The pattern of the texts that start with a text. -/
def startPattern (start : String) : String :=
  String.ofList ('^' :: literalPattern start.toList ++ ['.', '*'])

/-- The pattern of the texts that end with a text. -/
def endPattern (ending : String) : String :=
  String.ofList ('.' :: '*' :: literalPattern ending.toList ++ ['$'])

/-- The keywords of rules for strings. -/
def StringRules.keywords (rules : StringRules) : Members :=
  keyword "minLength" Json.ofSize rules.minLength ++
  keyword "maxLength" Json.ofSize rules.maxLength ++
  keyword "pattern" .str rules.pattern ++
  flag "format" (.str "email") rules.email ++
  flag "format" (.str "hostname") rules.hostname ++
  flag "format" (.str "uri") rules.uri ++
  keyword "const" .str rules.const ++
  listed "enum" (rules.among.map .str) ++
  keyword "pattern" (fun start => .str (startPattern start)) rules.startsWith ++
  keyword "pattern" (fun ending => .str (endPattern ending)) rules.endsWith

/-- The keywords of rules for bytes. Lengths have keywords that standard JSON Schema ignores. -/
def BytesRules.keywords (rules : BytesRules) : Members :=
  keyword "const" (fun bytes => .str (String.ofList (Base64.encode bytes))) rules.const ++
  keyword "minByteLength" Json.ofSize rules.minLength ++
  keyword "maxByteLength" Json.ofSize rules.maxLength

/-- The keywords of rules for booleans. -/
def BoolRules.keywords (rules : BoolRules) : Members :=
  keyword "const" .bool rules.const

/-- The keywords of rules for enum values, whose numbers are replaced by names. Numbers that the
enum type does not declare are passed over. -/
def EnumRules.keywords (rules : EnumRules) (enum : EnumType) : Members :=
  keyword "const" .str (rules.const.bind enum.nameOf?) ++
  listed "enum" ((rules.among.filterMap enum.nameOf?).map .str)

/-- Numbers that rules can be about. -/
class RuleNumber (α : Type) where
  /-- The number in a schema. -/
  toJson : α → Json
  isZero : α → Bool

instance : RuleNumber Signed32 where
  toJson n := .int n.toInteger
  isZero n := n.val = 0

instance : RuleNumber Unsigned32 where
  toJson n := .int n.toInteger
  isZero n := n.val = 0

instance : RuleNumber Signed64 where
  toJson n := .int n.toInteger
  isZero n := n.val = 0

instance : RuleNumber Unsigned64 where
  toJson n := .int n.toInteger
  isZero n := n.val = 0

/-- A number that is not finite is null in a schema. -/
instance : RuleNumber Double where
  toJson d := d.finite?.elim .null fun value => .num (.double value)
  isZero d := d.isZero

/-- A 32-bit number keeps its decimal digits in a schema; one that is not finite is null. -/
instance : RuleNumber Single where
  toJson s := s.toDouble?.elim .null fun value => .num (.double value)
  isZero s := s.isZero

/-- The keywords of rules for numbers. A bound of zero is no bound. -/
def NumericRules.keywords {α : Type} [RuleNumber α] (rules : NumericRules α) : Members :=
  let bound (key : String) (limit : Option α) : Members :=
    keyword key RuleNumber.toJson (limit.filter fun value => !RuleNumber.isZero value)
  keyword "const" RuleNumber.toJson rules.const ++
  bound "minimum" rules.atLeast ++
  bound "maximum" rules.atMost ++
  bound "exclusiveMinimum" rules.greater ++
  bound "exclusiveMaximum" rules.less ++
  listed "enum" (rules.among.map RuleNumber.toJson)

/-- The keywords of the rules for values of a kind. Rules for enum values need the enum type. -/
def FieldRules.keywords (rules : FieldRules) (kind : Kind) (enum : Option EnumType) : Members :=
  match kind with
  | .string => rules.string.elim [] (·.keywords)
  | .bytes => rules.bytes.elim [] (·.keywords)
  | .bool => rules.bool.elim [] (·.keywords)
  | .enum => rules.enum.elim [] fun own => enum.elim [] own.keywords
  | .int32 => rules.int32.elim [] (·.keywords)
  | .sint32 => rules.sint32.elim [] (·.keywords)
  | .sfixed32 => rules.sfixed32.elim [] (·.keywords)
  | .int64 => rules.int64.elim [] (·.keywords)
  | .sint64 => rules.sint64.elim [] (·.keywords)
  | .sfixed64 => rules.sfixed64.elim [] (·.keywords)
  | .uint32 => rules.uint32.elim [] (·.keywords)
  | .fixed32 => rules.fixed32.elim [] (·.keywords)
  | .uint64 => rules.uint64.elim [] (·.keywords)
  | .fixed64 => rules.fixed64.elim [] (·.keywords)
  | .float => rules.float.elim [] (·.keywords)
  | .double => rules.double.elim [] (·.keywords)
  | .message | .group => []

/-- The keywords of rules for lists. -/
def RepeatedRules.keywords {ρ : Type} (rules : RepeatedRules ρ) : Members :=
  keyword "minItems" Json.ofSize rules.minItems ++
  keyword "maxItems" Json.ofSize rules.maxItems ++
  flag "uniqueItems" (.bool true) rules.unique

/-- The keywords of rules for maps. -/
def MapRules.keywords {ρ : Type} (rules : MapRules ρ) : Members :=
  keyword "minProperties" Json.ofSize rules.minPairs ++
  keyword "maxProperties" Json.ofSize rules.maxPairs

namespace Json

/-- A schema under the rules for values of a kind. -/
def withRules (rules : FieldRules) (kind : Kind) (enum : Option EnumType) (schema : Json) : Json :=
  schema.putAll (rules.keywords kind enum)

/-- A schema of lists under the rules for lists. -/
def withRepeatedRules {ρ : Type} (rules : Option (RepeatedRules ρ)) (schema : Json) : Json :=
  schema.putAll (rules.elim [] (·.keywords))

/-- A schema of maps under the rules for maps. -/
def withMapRules {ρ : Type} (rules : Option (MapRules ρ)) (schema : Json) : Json :=
  schema.putAll (rules.elim [] (·.keywords))

end Json

end MessageSchema
