import MessageSchema.Proofs.Matching
import MessageSchema.Proofs.Nullability
import MessageSchema.Proofs.Representation

/-!
# Optional values and their wrappers

There are two ways to write that a value may be absent: presence for the field, and a message type
that wraps the value. Both accept null and whatever values of the kind are written as, be it numbers
or strings of digits. For floating-point numbers they differ: the schema of the wrapper has branches
for numbers, for three strings and for null, the schema of the field has the same branches and names
types beside them, and strings are not among these types. Main statement:
`Field.optional_accepts_iff`.
-/

namespace MessageSchema

/-! ## What a schema accepts -/

namespace Json

/-- The `enum` of a schema, if it has one, lists the value. Only texts are ever listed for the
schemas compared here, so equality of numbers plays no part. -/
def AllowsMember (schema value : Json) : Prop :=
  match schema.get? "enum" with
  | none => True
  | some (.arr values) => value ∈ values
  | some _ => False

/-- The `pattern` of a schema, if it has one, is found in the value, if that is a text. -/
def AllowsText (schema value : Json) : Prop :=
  match schema.get? "pattern" with
  | none => True
  | some (.str pattern) => ∀ text, value = .str text → Pattern.Matches pattern text
  | some _ => False

mutual

/-- A schema accepts a value, as far as `type`, `enum`, `pattern` and `oneOf` can tell. -/
def Accepts : Json → Json → Prop
  | .bool all, _ => all = true
  | .obj members, value => (obj members).AllowsType value ∧ (obj members).AllowsMember value ∧
      (obj members).AllowsText value ∧ OneOfAccepts members value
  | _, _ => False

/-- Of the branches of `oneOf`, if there is one among the members, exactly one accepts a value. -/
def OneOfAccepts : Members → Json → Prop
  | [], _ => True
  | (key, asked) :: rest, value =>
    if key = "oneOf" then
      match asked with
      | .arr branches => ExactlyOneAccepts branches value
      | _ => False
    else OneOfAccepts rest value

def ExactlyOneAccepts : List Json → Json → Prop
  | [], _ => False
  | branch :: rest, value => (branch.Accepts value ∧ NoneAccepts rest value) ∨
      (¬ branch.Accepts value ∧ ExactlyOneAccepts rest value)

def NoneAccepts : List Json → Json → Prop
  | [], _ => True
  | branch :: rest, value => ¬ branch.Accepts value ∧ NoneAccepts rest value

end

/-- The `oneOf` of a schema, if it has one, has exactly one branch that accepts the value. -/
def AllowsBranch (schema value : Json) : Prop :=
  match schema.get? "oneOf" with
  | none => True
  | some (.arr branches) => ExactlyOneAccepts branches value
  | some _ => False

variable {schema value : Json}

theorem oneOfAccepts_iff (members : Members) :
    OneOfAccepts members value ↔ (obj members).AllowsBranch value := by
  unfold AllowsBranch
  simp only [get?]
  induction members with
  | nil => simp [OneOfAccepts, Members.get?]
  | cons entry rest ih =>
    obtain ⟨key, asked⟩ := entry
    by_cases hkey : key = "oneOf"
    · subst hkey
      cases asked <;> simp [OneOfAccepts, Members.get?]
    · cases asked <;> simp [OneOfAccepts, Members.get?, hkey, ih]

/-- What a schema accepts depends on four of its keywords. -/
theorem accepts_iff {key : String} {asked : Json} (h : schema.get? key = some asked) :
    schema.Accepts value ↔ schema.AllowsType value ∧ schema.AllowsMember value ∧
      schema.AllowsText value ∧ schema.AllowsBranch value := by
  cases schema with
  | obj members => rw [Accepts, oneOfAccepts_iff]
  | _ => cases h

theorem null_mem_types_iff : "null" ∈ value.types ↔ value = .null := by
  cases value with
  | num n => simp only [types]; split <;> simp
  | _ => simp [types]

theorem exists_str_of_mem_types (h : "string" ∈ value.types) : ∃ text, value = .str text := by
  cases value with
  | str text => exact ⟨text, rfl⟩
  | num n => simp only [types] at h; split at h <;> simp at h
  | _ => simp [types] at h

/-- One of three strings that stand for numbers which are not finite. -/
def IsSentinel (value : Json) : Prop := ∃ text ∈ ["NaN", "Infinity", "-Infinity"], value = .str text

end Json

open Json

/-! ## Decimal strings -/

theorem isDigit_iff {c : Char} : ('0' ≤ c ∧ c ≤ '9') ↔ c.isDigit = true := by
  simp [Char.isDigit, Char.le_def]

/-- The pattern of integers is found exactly in the texts that are integers. -/
theorem matches_decimalPattern_iff {text : String} :
    Pattern.Matches Fragment.decimalPattern text ↔ IsDecimalText text := by
  have hparts : Pattern.parts? Fragment.decimalPattern = some [.start,
      .run (.only '-') .atMostOnce, .run (.range '0' '9') .atLeastOnce, .finish] := rfl
  rw [Pattern.matches_iff hparts]
  constructor
  · rintro ⟨before, after, htext, rfl, sign, rest, rfl, ⟨hsign, honly⟩, digits, left, rfl,
      ⟨hdigits, hrange⟩, rfl, -⟩
    refine ⟨digits, ?_, List.ne_nil_of_length_pos hdigits, fun c hc => isDigit_iff.1 (hrange c hc)⟩
    rw [← htext]
    cases sign with
    | nil => exact .inl (by simp)
    | cons c more =>
      have hlength : more.length + 1 ≤ 1 := hsign
      obtain rfl : more = [] := List.eq_nil_of_length_eq_zero (by omega)
      obtain rfl : c = '-' := honly c List.mem_cons_self
      exact .inr (by simp)
  · rintro ⟨digits, htext, hne, hdigits⟩
    have hrange : ∀ c ∈ digits, '0' ≤ c ∧ c ≤ '9' := fun c hc => isDigit_iff.2 (hdigits c hc)
    have hlast : ∀ before,
        Pattern.MatchesAt [.run (.range '0' '9') .atLeastOnce, .finish] before digits := by
      intro before
      exact ⟨digits, [], List.append_nil _, ⟨List.length_pos_of_ne_nil hne, hrange⟩, rfl, trivial⟩
    obtain htext | htext := htext
    · exact ⟨[], digits, htext.symm, rfl, [], digits, rfl, ⟨Nat.zero_le _, nofun⟩, hlast _⟩
    · refine ⟨[], _, htext.symm, rfl, ['-'], digits, rfl, ⟨Nat.le_refl _, ?_⟩, hlast _⟩
      intro c hc
      exact List.mem_singleton.1 hc

/-! ## Values of a kind -/

namespace Kind

/-- The type that wraps one value of a kind. -/
def wrapper? : Kind → Option WellKnown
  | .string => some .stringValue
  | .bool => some .boolValue
  | .int32 => some .int32Value
  | .uint32 => some .uint32Value
  | .int64 => some .int64Value
  | .uint64 => some .uint64Value
  | .float => some .floatValue
  | .double => some .doubleValue
  | .bytes => some .bytesValue
  | _ => none

def isFloating : Kind → Bool
  | .float | .double => true
  | _ => false

/-- Values of a kind are written this way: as values of its type, and as decimal strings where the
kind is wide. -/
def Writes (kind : Kind) (value : Json) : Prop :=
  kind.valueType ∈ value.types ∧
    (kind.isWide = true → ∃ text, value = .str text ∧ IsDecimalText text)

theorem valueType_of_isWide {kind : Kind} (h : kind.isWide = true) : kind.valueType = "string" := by
  cases kind with
  | int64 | sint64 | sfixed64 | uint64 | fixed64 => rfl
  | _ => cases h

theorem valueType_of_isFloating {kind : Kind} (h : kind.isFloating = true) :
    kind.valueType = "number" ∧ kind.isWide = false := by
  cases kind with
  | float | double => exact ⟨rfl, rfl⟩
  | _ => cases h

end Kind

namespace Json

variable {schema value : Json}

theorem accepts_typed_iff {name : String} :
    (Fragment.typed name []).Accepts value ↔ name ∈ value.types := by
  have htype : (Fragment.typed name []).get? "type" = some (.str name) := rfl
  rw [accepts_iff htype]
  simp [AllowsType, AllowsMember, AllowsText, AllowsBranch, Fragment.typed, get?, Members.get?]

theorem accepts_sentinels_iff :
    (Fragment.typed "string" [("enum", Fragment.sentinels)]).Accepts value ↔ value.IsSentinel := by
  have htype : (Fragment.typed "string" [("enum", Fragment.sentinels)]).get? "type" =
    some (.str "string") := rfl
  rw [accepts_iff htype]
  have hmember : (Fragment.typed "string" [("enum", Fragment.sentinels)]).AllowsMember value ↔
      value.IsSentinel := by
    simp [AllowsMember, Fragment.typed, Fragment.sentinels, strings, get?, Members.get?, IsSentinel]
  rw [hmember]
  constructor
  · exact fun h => h.2.1
  · rintro ⟨text, hin, rfl⟩
    exact ⟨List.mem_singleton_self _, ⟨text, hin, rfl⟩, trivial, trivial⟩

theorem exactlyOneAccepts_floatBranches_iff :
    ExactlyOneAccepts (Fragment.floatBranches ++ [Fragment.typed "null" []]) value ↔
      value = .null ∨ "number" ∈ value.types ∨ value.IsSentinel := by
  simp only [Fragment.floatBranches, List.cons_append, List.nil_append, ExactlyOneAccepts,
    NoneAccepts, accepts_typed_iff, accepts_sentinels_iff, null_mem_types_iff]
  cases value with
  | num n => simp [number_mem_types, IsSentinel]
  | _ => simp [types, IsSentinel]

/-- A schema asks for values of a kind, or null, whatever types it names. -/
structure AsksFor (schema : Json) (kind : Kind) : Prop where
  enum : schema.get? "enum" = none
  pattern : schema.get? "pattern" =
    if kind.isWide then some (.str Fragment.decimalPattern) else none
  oneOf : schema.get? "oneOf" =
    if kind.isFloating then some (.arr (Fragment.floatBranches ++ [Fragment.typed "null" []]))
    else none

namespace AsksFor

variable {kind : Kind}

theorem allowsMember (h : schema.AsksFor kind) : schema.AllowsMember value := by
  simp [AllowsMember, h.enum]

theorem allowsText_iff (h : schema.AsksFor kind) :
    schema.AllowsText value ↔
      (kind.isWide = true → ∀ text, value = .str text → IsDecimalText text) := by
  unfold AllowsText
  rw [h.pattern]
  cases kind.isWide <;> simp [matches_decimalPattern_iff]

theorem allowsBranch_iff (h : schema.AsksFor kind) :
    schema.AllowsBranch value ↔
      (kind.isFloating = true → value = .null ∨ "number" ∈ value.types ∨ value.IsSentinel) := by
  unfold AllowsBranch
  rw [h.oneOf]
  cases kind.isFloating <;> simp [exactlyOneAccepts_floatBranches_iff]

/-- With the type of the kind and null for types, the values of the kind and null are accepted. -/
theorem accepts_of_types (h : schema.AsksFor kind)
    (htype : schema.get? "type" = some (.strings [kind.valueType, "null"])) :
    schema.Accepts value ↔ value = .null ∨ kind.Writes value := by
  have htypes : schema.AllowsType value ↔ value = .null ∨ kind.valueType ∈ value.types := by
    simp [AllowsType, htype, strings, ← null_mem_types_iff, and_or_left, exists_or, or_comm]
  rw [accepts_iff htype, htypes, h.allowsText_iff, h.allowsBranch_iff]
  constructor
  · rintro ⟨hnull | hvalue, -, htext, -⟩
    · exact .inl hnull
    · refine .inr ⟨hvalue, fun hwide => ?_⟩
      rw [Kind.valueType_of_isWide hwide] at hvalue
      obtain ⟨text, rfl⟩ := exists_str_of_mem_types hvalue
      exact ⟨text, rfl, htext hwide text rfl⟩
  · rintro (rfl | ⟨hvalue, hdecimal⟩)
    · refine ⟨.inl rfl, h.allowsMember, fun _ text htext => ?_, fun _ => .inl rfl⟩
      cases htext
    · refine ⟨.inr hvalue, h.allowsMember, fun hwide text htext => ?_, fun hfloating => ?_⟩
      · obtain ⟨other, rfl, hother⟩ := hdecimal hwide
        obtain rfl := Json.str.inj htext
        exact hother
      · exact .inr (.inl ((Kind.valueType_of_isFloating hfloating).1 ▸ hvalue))

/-- Without types the branches decide, among which there is one for strings. -/
theorem accepts_of_branches (h : schema.AsksFor kind) (htype : schema.get? "type" = none)
    (hfloating : kind.isFloating = true) :
    schema.Accepts value ↔ value = .null ∨ kind.Writes value ∨ value.IsSentinel := by
  obtain ⟨hnumber, hwide⟩ := Kind.valueType_of_isFloating hfloating
  have hbranches := h.oneOf
  rw [hfloating] at hbranches
  rw [accepts_iff hbranches, h.allowsText_iff, h.allowsBranch_iff]
  simp [AllowsType, htype, h.allowsMember, hwide, hfloating, Kind.Writes, hnumber]

end AsksFor

end Json

/-! ## The two schemas -/

namespace WellKnown

variable {kind : Kind} {type : WellKnown}

theorem asksFor_of_wrapper (h : kind.wrapper? = some type) : type.schema.AsksFor kind := by
  cases kind with
  | sint32 | sfixed32 | fixed32 | sint64 | sfixed64 | fixed64 | enum | message | group => cases h
  | _ =>
    obtain rfl := Option.some.inj h
    exact ⟨rfl, rfl, rfl⟩

/-- The wrappers of floating-point numbers name no types. -/
theorem get?_type_of_wrapper (h : kind.wrapper? = some type) : type.schema.get? "type" =
    if kind.isFloating then none else some (.strings [kind.valueType, "null"]) := by
  cases kind with
  | sint32 | sfixed32 | fixed32 | sint64 | sfixed64 | fixed64 | enum | message | group => cases h
  | _ =>
    obtain rfl := Option.some.inj h
    rfl

/-- The wrapper of a kind accepts its values and null, and the three strings if there are
branches. -/
theorem accepts_wrapper_iff (h : kind.wrapper? = some type) {value : Json} :
    type.schema.Accepts value ↔
      value = .null ∨ kind.Writes value ∨ (kind.isFloating = true ∧ value.IsSentinel) := by
  have asks := asksFor_of_wrapper h
  have htype := get?_type_of_wrapper h
  cases hfloating : kind.isFloating with
  | true =>
    rw [hfloating] at htype
    rw [asks.accepts_of_branches htype hfloating]
    simp
  | false =>
    rw [hfloating] at htype
    rw [asks.accepts_of_types htype]
    simp

end WellKnown

namespace Kind

variable {kind : Kind} {type : WellKnown} {enum : Option EnumType} {description : Option String}

/-- A value of a kind that has a wrapper has a schema, and once null is added this asks for values
of the kind. -/
theorem exists_fragment (h : kind.wrapper? = some type) :
    ∃ fragment, kind.fragment enum = .ok fragment ∧
      fragment.get? "type" = some (.str kind.valueType) ∧
      (fragment.withDescription description).orNull.AsksFor kind := by
  have hkept : ∀ schema : Json, ∀ key, "type" ≠ key → "oneOf" ≠ key → "description" ≠ key →
      (schema.withDescription description).orNull.get? key = schema.get? key := by
    intro schema key ht ho hd
    rw [get?_orNull ht ho, get?_withDescription hd]
  have hbranches : ∀ schema : Json, (schema.withDescription description).orNull.get? "oneOf" =
      (schema.get? "oneOf").map branchesOrNull := by
    intro schema
    rw [get?_oneOf_orNull, get?_withDescription (by decide)]
  cases kind with
  | sint32 | sfixed32 | fixed32 | sint64 | sfixed64 | fixed64 | enum | message | group => cases h
  | _ =>
    refine ⟨_, rfl, rfl, ⟨?_, ?_, ?_⟩⟩
    · exact hkept _ _ (by decide) (by decide) (by decide)
    · exact hkept _ _ (by decide) (by decide) (by decide)
    · exact hbranches _

/-- The three strings are neither numbers nor null. -/
theorem not_writes_of_isSentinel {value : Json} (hfloating : kind.isFloating = true)
    (h : value.IsSentinel) : ¬ (value = .null ∨ kind.Writes value) := by
  obtain ⟨text, -, rfl⟩ := h
  rintro (hnull | ⟨htyped, -⟩)
  · cases hnull
  · rw [(valueType_of_isFloating hfloating).1] at htyped
    exact absurd htyped (by simp [types])

end Kind

namespace Field

variable {f : Field} {type : WellKnown}

theorem isNullable_of_presence (hc : f.cardinality = .singular) (hp : f.presence = true) :
    f.isNullable = true := by
  simp [isNullable, hc, hp]

theorem singleSchema_of_presence {set : DescriptorSet} {value : Json}
    (hc : f.cardinality = .singular) (hp : f.presence = true) (hr : f.rules = none) :
    f.singleSchema set value = (value.withDescription f.description).orNull := by
  simp [singleSchema, isNullable_of_presence hc hp, hr]

/-- **A field with presence accepts what the wrapper of its kind accepts, but for three strings.**
Both accept null and the values of the kind. The wrapper of a floating-point number accepts the
strings for numbers that are not finite too, which a field that names these in a branch does not:
its types are those of numbers and null. -/
theorem optional_accepts_iff (hwrapper : f.kind.wrapper? = some type)
    (hc : f.cardinality = .singular) (hp : f.presence = true) (hr : f.rules = none)
    (set : DescriptorSet) (inside : List String) :
    ∃ schema, set.expandField inside f = .ok schema ∧ ∀ value : Json,
      (schema.Accepts value ↔ value = .null ∨ f.kind.Writes value) ∧
      (type.schema.Accepts value ↔
        value = .null ∨ f.kind.Writes value ∨ (f.kind.isFloating = true ∧ value.IsSentinel)) ∧
      ((schema.Accepts value ↔ type.schema.Accepts value) ↔
        ¬ (f.kind.isFloating = true ∧ value.IsSentinel)) := by
  have hk : f.kind ≠ .message := by
    intro hk
    rw [hk] at hwrapper
    cases hwrapper
  obtain ⟨fragment, hfragment, htype, asks⟩ := Kind.exists_fragment hwrapper
  rw [← singleSchema_of_presence hc hp hr] at asks
  have htypes : (f.singleSchema set fragment).get? "type" =
      some (.strings [f.kind.valueType, "null"]) := by
    rw [get?_type_singleSchema, isNullable_of_presence hc hp, htype]
    rfl
  refine ⟨f.singleSchema set fragment, ?_, fun value => ?_⟩
  · rw [DescriptorSet.expandField_of_single (by simp [hc]) (by simp [hc]) (wellKnown?_of_kind hk),
      DescriptorSet.expandValue_of_kind hk, hfragment]
    rfl
  · have hfield : (f.singleSchema set fragment).Accepts value ↔ _ := asks.accepts_of_types htypes
    have hother : type.schema.Accepts value ↔ _ := WellKnown.accepts_wrapper_iff hwrapper
    refine ⟨hfield, hother, ?_⟩
    rw [hfield, hother, ← or_assoc]
    constructor
    · intro hsame hsentinel
      exact Kind.not_writes_of_isSentinel hsentinel.1 hsentinel.2 (hsame.2 (.inr hsentinel))
    · intro hnot
      exact (or_iff_left hnot).symm

/-- A number of steps that may not have been counted. -/
def steps : Field where
  name := "steps"
  kind := .int64
  presence := true
  annotations := some { description := some "Since midnight." }

/-- The wrapper and the field accept digits and null, and no numbers. -/
theorem steps_accepts : ∃ schema, DescriptorSet.expandField {} [] steps = .ok schema ∧
    schema.Accepts (.str "-12") ∧ WellKnown.int64Value.schema.Accepts (.str "-12") ∧
    schema.Accepts .null ∧ ¬ schema.Accepts (.bool true) ∧
    ¬ WellKnown.int64Value.schema.Accepts (.bool true) := by
  obtain ⟨schema, hschema, haccepts⟩ := optional_accepts_iff (f := steps) rfl rfl rfl rfl {} []
  have hdecimal : steps.kind.Writes (.str "-12") :=
    ⟨.head _, fun _ => ⟨_, rfl, ['1', '2'], .inr rfl, by simp, by simp⟩⟩
  have htrue : ¬ schema.Accepts (.bool true) := by
    intro h
    rcases (haccepts _).1.1 h with hnull | ⟨htyped, -⟩
    · cases hnull
    · exact absurd htyped (by decide)
  have hsame : ∀ value, schema.Accepts value ↔ WellKnown.int64Value.schema.Accepts value := by
    intro value
    exact (haccepts value).2.2.2 fun h => nomatch h.1
  have htext : schema.Accepts (.str "-12") := (haccepts _).1.2 (.inr hdecimal)
  exact ⟨schema, hschema, htext, (hsame _).1 htext, (haccepts _).1.2 (.inl rfl), htrue,
    fun h => htrue ((hsame _).2 h)⟩

end Field

namespace Pool

/-- A ratio that may be missing, and need not be finite. -/
def ratio : Field := (Field.plain "ratio" .float).asOptional

def readingType : MessageType where
  declaredName := "probe.Reading"
  fields := [ratio]

def probe : Pool where
  set := { messages := [readingType] }
  sound := by decide

def reading : probe.set.Message := ⟨readingType, .head _⟩

def ratioSchema : Json :=
  .obj [("type", .strings ["number", "null"]),
    ("oneOf", .arr (Fragment.floatBranches ++ [Fragment.typed "null" []]))]

/-- One of the strings that a branch names is not accepted, which the wrapper accepts. -/
theorem ratio_rejects_nan : ∃ document schema, probe.schemaOf reading = .ok document ∧
    document.at? ["properties", "ratio"] = some schema ∧ ¬ schema.Accepts (.str "NaN") ∧
    WellKnown.floatValue.schema.Accepts (.str "NaN") := by
  obtain ⟨document, hdocument, hfound⟩ : ∃ document, probe.schemaOf reading = .ok document ∧
      decide (document.at? ["properties", "ratio"] = some ratioSchema) = true :=
    exists_schemaOf_with (by decide +kernel)
  refine ⟨document, _, hdocument, of_decide_eq_true hfound, ?_, ?_⟩
  · intro haccepts
    have htype : ratioSchema.get? "type" = some (.strings ["number", "null"]) := rfl
    have hallows : ratioSchema.AllowsType (.str "NaN") := ((accepts_iff htype).1 haccepts).1
    simp [AllowsType, htype, strings, types] at hallows
  · have hwrapper : Kind.wrapper? .float = some .floatValue := rfl
    exact (WellKnown.accepts_wrapper_iff hwrapper).2 (.inr (.inr ⟨rfl, _, .head _, rfl⟩))

end Pool

end MessageSchema
