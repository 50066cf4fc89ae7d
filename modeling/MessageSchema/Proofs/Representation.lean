import MessageSchema.Proofs.Bounds
import MessageSchema.Schema.Fragment
import MessageSchema.Verify.Vocabulary

/-!
# How the values of rules are written

The schema of a value of some kind says how such values are written in JSON, and rules may prescribe
the value itself, by `const` or `enum`. Strings, bytes, booleans and the names of enum values are
prescribed as they are written. Numbers are prescribed as numbers: that is how they are written
unless they have 64 bits, and unless they are not finite. Main statement:
`Json.withRules_represented`.
-/

namespace MessageSchema

/-! ## What a schema says of values -/

namespace Json

/-- The names of the types that a value is of. -/
def types : Json → List String
  | .null => ["null"]
  | .bool _ => ["boolean"]
  | .num n => if n.isWhole then ["integer", "number"] else ["number"]
  | .str _ => ["string"]
  | .arr _ => ["array"]
  | .obj _ => ["object"]

theorem number_mem_types (n : Number) : "number" ∈ (num n).types := by
  rw [types]
  split <;> simp

/-- The `type` of a schema, if it has one, names a type that the value is of. -/
def AllowsType (schema value : Json) : Prop :=
  match schema.get? "type" with
  | none => True
  | some (.str name) => name ∈ value.types
  | some (.arr names) => ∃ name ∈ value.types, .str name ∈ names
  | some _ => False

/-- The value is the `const` of a schema or a member of its `enum`. -/
def Prescribes (schema value : Json) : Prop :=
  schema.get? "const" = some value ∨
    ∃ values, schema.get? "enum" = some (.arr values) ∧ value ∈ values

end Json

/-- Digits, at least one, possibly after a minus sign: the texts that `Fragment.decimalPattern`
asks for. -/
def IsDecimalText (text : String) : Prop :=
  ∃ digits, (text.toList = digits ∨ text.toList = '-' :: digits) ∧ digits ≠ [] ∧
    ∀ c ∈ digits, c.isDigit = true

namespace Kind

/-- Whether values of a kind are integers of 64 bits, which are written as strings. -/
def isWide : Kind → Bool
  | .int64 | .sint64 | .sfixed64 | .uint64 | .fixed64 => true
  | _ => false

/-- The name of the type that values of a kind are of. -/
def valueType : Kind → String
  | .bool => "boolean"
  | .int32 | .sint32 | .sfixed32 | .uint32 | .fixed32 => "integer"
  | .float | .double => "number"
  | _ => "string"

end Kind

/-- A value is written the way a schema asks of values of a kind. -/
structure Json.Represents (schema : Json) (kind : Kind) (value : Json) : Prop where
  typed : schema.AllowsType value
  decimal : kind.isWide = true →
    schema.get? "pattern" = some (.str Fragment.decimalPattern) ∧
      ∃ text, value = .str text ∧ IsDecimalText text

namespace FieldRules

/-- A number that rules prescribe for values of a kind. -/
def Gives (rules : FieldRules) (kind : Kind) (number : kind.NumberType) : Prop :=
  ∃ own, rules.numbers kind = some own ∧ (own.const = some number ∨ number ∈ own.among)

/-- What rules for values of a kind can prescribe: one of their numbers, as a number, or a value of
the type of the kind. -/
def States (rules : FieldRules) (kind : Kind) (value : Json) : Prop :=
  (∃ number, rules.Gives kind number ∧ value = RuleNumber.toJson number) ∨
    kind.isWide = false ∧ kind.valueType ∈ value.types

end FieldRules

/-! ## What members prescribe -/

namespace Members

/-- What the members prescribe has a property. -/
structure PrescribeOnly (p : Json → Prop) (members : Members) : Prop where
  const : ∀ value, ("const", value) ∈ members → p value
  among : ∀ values, ("enum", .arr values) ∈ members → ∀ value ∈ values, p value

namespace PrescribeOnly

variable {p : Json → Prop} {members first second : Members} {key : String}

theorem of_keys (hconst : "const" ∉ members.map Prod.fst) (henum : "enum" ∉ members.map Prod.fst) :
    PrescribeOnly p members where
  const _ hin := absurd (List.mem_map_of_mem hin) hconst
  among _ hin := absurd (List.mem_map_of_mem hin) henum

theorem append (hf : PrescribeOnly p first) (hs : PrescribeOnly p second) :
    PrescribeOnly p (first ++ second) := by
  constructor
  · intro value hin
    rcases List.mem_append.1 hin with hin | hin
    · exact hf.const value hin
    · exact hs.const value hin
  · intro values hin
    rcases List.mem_append.1 hin with hin | hin
    · exact hf.among values hin
    · exact hs.among values hin

theorem keyword {α : Type} {toJson : α → Json} {rule : Option α}
    (h : key = "const" → ∀ value, rule = some value → p (toJson value)) (hkey : key ≠ "enum") :
    PrescribeOnly p (keyword key toJson rule) := by
  constructor
  · intro value hin
    obtain ⟨stated, hrule, hentry⟩ := mem_keyword hin
    obtain ⟨rfl, rfl⟩ := Prod.mk.inj hentry
    exact h rfl stated hrule
  · intro values hin
    obtain ⟨stated, -, hentry⟩ := mem_keyword hin
    exact absurd (Prod.mk.inj hentry).1.symm hkey

theorem flag {isSet : Bool} {value : Json} (hc : key ≠ "const") (he : key ≠ "enum") :
    PrescribeOnly p (flag key value isSet) := by
  cases isSet with
  | false => exact .of_keys List.not_mem_nil List.not_mem_nil
  | true =>
    have hnone : ∀ {name}, key ≠ name → name ∉ (MessageSchema.flag key value true).map Prod.fst :=
      fun h hin => h (List.mem_singleton.1 hin).symm
    exact .of_keys (hnone hc) (hnone he)

theorem listed {values : List Json} (h : ∀ value ∈ values, p value) :
    PrescribeOnly p (listed "enum" values) := by
  constructor
  · intro value hin
    obtain ⟨-, hentry⟩ := mem_listed hin
    exact absurd (Prod.mk.inj hentry).1 (by decide)
  · intro others hin
    obtain ⟨-, hentry⟩ := mem_listed hin
    obtain rfl := Json.arr.inj (Prod.mk.inj hentry).2
    exact h

theorem elim {ρ : Type} {rules : Option ρ} {keywords : ρ → Members}
    (h : ∀ own, rules = some own → PrescribeOnly p (keywords own)) :
    PrescribeOnly p (rules.elim [] keywords) := by
  cases rules with
  | none => exact .of_keys List.not_mem_nil List.not_mem_nil
  | some own => exact h own rfl

/-- A schema prescribes what its members do and what is put into it. -/
theorem of_putAll (hm : PrescribeOnly p members) (hs : PrescribeOnly p second) {value : Json}
    (h : (Json.obj (putAll members second)).Prescribes value) : p value := by
  have hall := hm.append hs
  rcases h with hconst | ⟨values, henum, hin⟩
  · exact hall.const value (List.mem_append.2 (mem_putAll (mem_of_get? hconst)))
  · exact hall.among values (List.mem_append.2 (mem_putAll (mem_of_get? henum))) value hin

end PrescribeOnly

end Members

/-! ## What rules prescribe -/

section Texts

variable {p : Json → Prop} (hp : ∀ text, p (.str text))

include hp

theorem prescribeOnly_strings (names : List String) :
    Members.PrescribeOnly p (listed "enum" (names.map .str)) := by
  refine .listed fun value hin => ?_
  obtain ⟨name, -, rfl⟩ := List.mem_map.1 hin
  exact hp name

theorem StringRules.prescribeOnly_keywords (rules : StringRules) :
    rules.keywords.PrescribeOnly p := by
  unfold StringRules.keywords
  repeat' apply Members.PrescribeOnly.append
  all_goals first
    | exact .keyword (fun _ _ _ => hp _) (by decide)
    | exact .keyword (fun h => absurd h (by decide)) (by decide)
    | exact .flag (by decide) (by decide)
    | exact prescribeOnly_strings hp _

theorem BytesRules.prescribeOnly_keywords (rules : BytesRules) :
    rules.keywords.PrescribeOnly p := by
  unfold BytesRules.keywords
  repeat' apply Members.PrescribeOnly.append
  all_goals first
    | exact .keyword (fun _ _ _ => hp _) (by decide)
    | exact .keyword (fun h => absurd h (by decide)) (by decide)

theorem EnumRules.prescribeOnly_keywords (rules : EnumRules) (enum : EnumType) :
    (rules.keywords enum).PrescribeOnly p :=
  .append (.keyword (fun _ _ _ => hp _) (by decide)) (prescribeOnly_strings hp _)

end Texts

theorem NumericRules.prescribeOnly_keywords {α : Type} [RuleNumber α] (rules : NumericRules α) :
    rules.keywords.PrescribeOnly fun value =>
      ∃ number, (rules.const = some number ∨ number ∈ rules.among) ∧
        value = RuleNumber.toJson number := by
  unfold NumericRules.keywords
  repeat' apply Members.PrescribeOnly.append
  case hs =>
    refine .listed fun value hin => ?_
    obtain ⟨number, hnumber, rfl⟩ := List.mem_map.1 hin
    exact ⟨number, .inr hnumber, rfl⟩
  all_goals first
    | exact .keyword (fun h => absurd h (by decide)) (by decide)
    | exact .keyword (fun _ number hconst => ⟨number, .inl hconst, rfl⟩) (by decide)

namespace FieldRules

variable {rules : FieldRules} {kind : Kind}

theorem states_text (hkind : kind.valueType = "string") (hwide : kind.isWide = false)
    (text : String) : rules.States kind (.str text) := by
  refine .inr ⟨hwide, ?_⟩
  rw [hkind]
  exact List.mem_singleton_self _

theorem prescribeOnly_of_numbers {own : NumericRules kind.NumberType}
    (h : rules.numbers kind = some own) : own.keywords.PrescribeOnly (rules.States kind) := by
  have hown := own.prescribeOnly_keywords
  constructor
  · intro value hin
    obtain ⟨number, hnumber, rfl⟩ := hown.const value hin
    exact .inl ⟨number, ⟨own, h, hnumber⟩, rfl⟩
  · intro values hin value hvalue
    obtain ⟨number, hnumber, rfl⟩ := hown.among values hin value hvalue
    exact .inl ⟨number, ⟨own, h, hnumber⟩, rfl⟩

theorem prescribeOnly_keywords (rules : FieldRules) (kind : Kind) (enum : Option EnumType) :
    (rules.keywords kind enum).PrescribeOnly (rules.States kind) := by
  cases kind with
  | string => exact .elim fun own _ => own.prescribeOnly_keywords (states_text rfl rfl)
  | bytes => exact .elim fun own _ => own.prescribeOnly_keywords (states_text rfl rfl)
  | enum =>
    refine .elim fun own _ => .elim fun type _ => ?_
    exact own.prescribeOnly_keywords (states_text rfl rfl) type
  | bool =>
    refine .elim fun own _ => .keyword (fun _ value _ => ?_) (by decide)
    exact .inr ⟨rfl, List.mem_singleton_self _⟩
  | message | group => exact .of_keys List.not_mem_nil List.not_mem_nil
  | _ => exact .elim fun own hown => prescribeOnly_of_numbers hown

end FieldRules

/-- The schema of enum values has an `enum` if there are names for it. -/
theorem Fragment.enumeration_eq (enum : Option EnumType) : enumeration enum =
    typed "string" (listed "enum" ((enum.elim [] (·.values.map (·.name))).map .str)) := by
  cases enum with
  | none => rfl
  | some type =>
    obtain ⟨_, values⟩ := type
    cases values <;> rfl

namespace Kind

variable {kind : Kind} {enum : Option EnumType} {fragment : Json}

/-- The schema of a value has the type of its kind, and prescribes names of an enum type only. -/
theorem exists_typed_of_fragment (h : kind.fragment enum = .ok fragment) (rules : FieldRules) :
    ∃ more, fragment = Fragment.typed kind.valueType more ∧
      Members.PrescribeOnly (rules.States kind) more := by
  cases kind with
  | message | group => cases h
  | enum =>
    obtain rfl := Except.ok.inj h
    refine ⟨_, Fragment.enumeration_eq enum, ?_⟩
    exact prescribeOnly_strings (FieldRules.states_text rfl rfl) _
  | _ =>
    obtain rfl := Except.ok.inj h
    exact ⟨_, rfl, .of_keys (by decide) (by decide)⟩

theorem get?_pattern_fragment (h : kind.fragment enum = .ok fragment) (hwide : kind.isWide = true) :
    fragment.get? "pattern" = some (.str Fragment.decimalPattern) := by
  cases kind with
  | int64 | sint64 | sfixed64 | uint64 | fixed64 =>
    obtain rfl := Except.ok.inj h
    rfl
  | _ => cases hwide

theorem pattern_not_mem_ruleKeys (hwide : kind.isWide = true) : "pattern" ∉ kind.ruleKeys := by
  cases kind with
  | int64 | sint64 | sfixed64 | uint64 | fixed64 => decide
  | _ => cases hwide

theorem valueType_not_mem_types_null (kind : Kind) : kind.valueType ∉ Json.null.types := by
  cases kind <;> decide

/-- A number is of the type of its kind unless numbers of the kind are written as strings, or it
has no number of JSON. -/
theorem valueType_mem_types_iff (number : kind.NumberType) :
    kind.valueType ∈ (RuleNumber.toJson number).types ↔
      kind.isWide = false ∧ kind.IsFinite number := by
  by_cases hfinite : kind.IsFinite number
  case neg =>
    rw [toJson_of_not_isFinite hfinite]
    simp [hfinite, valueType_not_mem_types_null]
  case pos =>
    obtain ⟨n, hn, hdenotes⟩ := exists_denotes hfinite
    rw [hn]
    cases kind with
    | bool | string | bytes | enum | message | group => nomatch number
    | float | double =>
      obtain ⟨d, rfl, -⟩ := hdenotes
      simp [hfinite, valueType, isWide, Json.number_mem_types]
    | _ =>
      obtain ⟨i, rfl, -⟩ := hdenotes
      simp [Json.types, Number.isWhole, valueType, isWide, hfinite]

end Kind

namespace FieldRules

variable {rules : FieldRules} {kind : Kind} {enum : Option EnumType} {members : Members}

/-- A number that rules give for values of a kind is prescribed. -/
theorem Gives.prescribes {number : kind.NumberType} (h : rules.Gives kind number) :
    ((Json.obj members).withRules rules kind enum).Prescribes (RuleNumber.toJson number) := by
  obtain ⟨own, hown, hnumber⟩ := h
  have hget : ∀ key, ((Json.obj members).withRules rules kind enum).get? key =
      (Members.get? key own.keywords).or (Members.get? key members) := by
    intro key
    rw [Json.withRules, keywords_of_numbers hown]
    exact Members.get?_putAll_of_nodup own.keys_nodup
  rcases hnumber with hconst | hamong
  · refine .inl ?_
    rw [hget]
    simp [NumericRules.keywords, Members.get?_append, get?_keyword, hconst]
  · refine .inr ⟨own.among.map RuleNumber.toJson, ?_, List.mem_map_of_mem hamong⟩
    rw [hget]
    simp [NumericRules.keywords, Members.get?_append, get?_keyword, get?_listed,
      List.ne_nil_of_mem hamong]

end FieldRules

namespace Json

/-- **What rules prescribe is written as the kind asks, except for integers of 64 bits and numbers
that are not finite.** Rules keep the type of a kind, and the pattern of the integers that are
written as strings. Of the values that the schema then prescribes, those are written the way it asks
whose kind is not written as decimal strings and which are not null; and all are if and only if
rules give no number of 64-bit integers and none that is not finite. Where rules have been read, the
latter can only be an infinite number of 32 bits. -/
theorem withRules_represented {kind : Kind} {enum : Option EnumType} {fragment : Json}
    (h : kind.fragment enum = .ok fragment) (rules : FieldRules) :
    (fragment.withRules rules kind enum).get? "type" = some (.str kind.valueType) ∧
    (kind.isWide = true → (fragment.withRules rules kind enum).get? "pattern" =
      some (.str Fragment.decimalPattern)) ∧
    (∀ value, (fragment.withRules rules kind enum).Prescribes value →
      ((fragment.withRules rules kind enum).Represents kind value ↔
        kind.isWide = false ∧ value ≠ .null)) ∧
    ((∀ value, (fragment.withRules rules kind enum).Prescribes value →
        (fragment.withRules rules kind enum).Represents kind value) ↔
      ∀ number, rules.Gives kind number → kind.isWide = false ∧ kind.IsFinite number) ∧
    ∀ w, FieldRules.decode? w = some rules → ∀ number, rules.Gives kind number →
      (kind.IsFinite number ↔ ¬ kind.IsInfiniteSingle number) := by
  obtain ⟨more, hfragment, honly⟩ := Kind.exists_typed_of_fragment h rules
  have hpattern := Kind.get?_pattern_fragment h
  subst hfragment
  set ruled := (Fragment.typed kind.valueType more).withRules rules kind enum with hruled
  have htype : ruled.get? "type" = some (.str kind.valueType) := by
    rw [hruled, get?_withRules (by cases kind <;> decide)]
    rfl
  have hallows : ∀ value, ruled.AllowsType value ↔ kind.valueType ∈ value.types := by
    intro value
    simp [AllowsType, htype]
  have hstates : ∀ value, ruled.Prescribes value → rules.States kind value := by
    intro value hvalue
    have htyped : Members.PrescribeOnly (rules.States kind) [("type", .str kind.valueType)] :=
      .of_keys (by simp) (by simp)
    exact (htyped.append honly).of_putAll (rules.prescribeOnly_keywords kind enum) hvalue
  have hiff : ∀ value, ruled.Prescribes value →
      (ruled.Represents kind value ↔ kind.isWide = false ∧ value ≠ .null) := by
    intro value hvalue
    constructor
    · intro hwritten
      have htyped := (hallows value).1 hwritten.typed
      refine ⟨?_, fun hnull => kind.valueType_not_mem_types_null (hnull ▸ htyped)⟩
      rcases hstates value hvalue with ⟨number, -, rfl⟩ | ⟨hwide, -⟩
      · exact ((Kind.valueType_mem_types_iff number).1 htyped).1
      · exact hwide
    · rintro ⟨hwide, hnull⟩
      refine ⟨(hallows value).2 ?_, fun htrue => ?_⟩
      · rcases hstates value hvalue with ⟨number, -, rfl⟩ | ⟨-, htyped⟩
        · refine (Kind.valueType_mem_types_iff number).2 ⟨hwide, ?_⟩
          exact by_contra fun hinfinite => hnull (Kind.toJson_of_not_isFinite hinfinite)
        · exact htyped
      · rw [hwide] at htrue
        cases htrue
  refine ⟨htype, ?_, hiff, ⟨?_, ?_⟩, ?_⟩
  · intro hwide
    rw [hruled, get?_withRules (Kind.pattern_not_mem_ruleKeys hwide), hpattern hwide]
  · intro hall number hgives
    have hvalue : ruled.Prescribes (RuleNumber.toJson number) := hgives.prescribes
    have htyped := (hallows _).1 (hall _ hvalue).typed
    exact (Kind.valueType_mem_types_iff number).1 htyped
  · intro hgives value hvalue
    rw [hiff value hvalue]
    rcases hstates value hvalue with ⟨number, hnumber, rfl⟩ | ⟨hwide, htyped⟩
    · obtain ⟨hwide, hfinite⟩ := hgives number hnumber
      obtain ⟨n, hn, -⟩ := Kind.exists_denotes hfinite
      refine ⟨hwide, ?_⟩
      rw [hn]
      exact nofun
    · exact ⟨hwide, fun hnull => kind.valueType_not_mem_types_null (hnull ▸ htyped)⟩
  · rintro w hread number ⟨own, hown, hnumber⟩
    refine FieldRules.isFinite_iff_of_decode? hread hown number ?_
    simp only [NumericRules.values, List.mem_append, Option.mem_toList]
    tauto

/-- A half, or minus infinity. -/
def halfRules : FieldRules where
  float := some {
    const := some (.finite ⟨false, 8388608, -24, by decide⟩)
    among := [.infinite true] }

theorem half_represented : ∃ fragment,
    Kind.float.fragment none = .ok fragment ∧
    (fragment.withRules halfRules .float none).Represents .float
      (.num (.double ⟨false, 4503599627370496, -53, by decide⟩)) ∧
    (fragment.withRules halfRules .float none).Prescribes .null ∧
    ¬ (fragment.withRules halfRules .float none).Represents .float .null := by
  have hfragment : Kind.float.fragment none = .ok _ := rfl
  obtain ⟨-, -, hiff, -⟩ := withRules_represented hfragment halfRules
  refine ⟨_, hfragment, ?_, ?_, ?_⟩
  · refine (hiff _ (.inl ?_)).2 ⟨rfl, nofun⟩
    decide +kernel
  · exact .inr ⟨_, rfl, List.mem_singleton_self _⟩
  · intro hnull
    refine ((hiff _ ?_).1 hnull).2 rfl
    exact .inr ⟨_, rfl, List.mem_singleton_self _⟩

/-- Rules that prescribe an integer of 64 bits. -/
def fiveText : String := "\x7b\"int64\":\x7b\"const\":5\x7d\x7d"

/-- The integer is prescribed as a number to a schema that asks for a string. -/
theorem five_not_represented : ∃ rules fragment five,
    (Written.read? fiveText).bind FieldRules.decode? = some rules ∧
    Kind.int64.fragment none = .ok fragment ∧
    fragment.withRules rules .int64 none = obj [("type", .str "string"),
      ("pattern", .str Fragment.decimalPattern), ("const", five)] ∧
    (fragment.withRules rules .int64 none).Prescribes five ∧
    ¬ (fragment.withRules rules .int64 none).AllowsType five := by
  obtain ⟨rules, hread, hint64⟩ : ∃ rules,
      (Written.read? fiveText).bind FieldRules.decode? = some rules ∧
      decide (rules.int64 = some { const := some ⟨5, by decide, by decide⟩ }) = true :=
    (Option.any_eq_true _ _).1 (by decide +kernel)
  replace hint64 := of_decide_eq_true hint64
  have hruled : (Fragment.typed "string" [("pattern", .str Fragment.decimalPattern)]).withRules
      rules .int64 none = obj [("type", .str "string"),
        ("pattern", .str Fragment.decimalPattern), ("const", .int ⟨5, by decide, by decide⟩)] := by
    simp only [withRules, FieldRules.keywords, hint64]
    rfl
  refine ⟨rules, _, _, hread, rfl, hruled, ?_, ?_⟩
  · rw [hruled]
    exact .inl rfl
  · rw [hruled]
    show "string" ∉ ["integer", "number"]
    decide

end Json

end MessageSchema
