import MessageSchema.Proofs.RuleKeys
import MessageSchema.Proofs.RuleTexts
import MessageSchema.Proofs.Rounding

/-!
# Bounds in a schema

Rules for numbers have the same parts for every type of number. `FieldRules.numbers` are the rules
of a kind, with the type of its numbers, and `get?_putAll_bound` finds each of their bounds in a
schema under the keyword that it is stated by. A bound that is set and not zero is there as a
number if it is finite, and as null if not. Of the numbers that rules are read with, only those of
32 bits may be infinite (`FieldRules.isFinite_iff_of_decode?`). Main statement:
`Json.withRules_bounds`.
-/

namespace MessageSchema

/-! ## Rules for numbers of any kind -/

namespace Kind

/-- The numbers that rules for values of a kind are about; none unless the values are numbers. -/
def NumberType : Kind → Type
  | .int32 | .sint32 | .sfixed32 => Signed32
  | .uint32 | .fixed32 => Unsigned32
  | .int64 | .sint64 | .sfixed64 => Signed64
  | .uint64 | .fixed64 => Unsigned64
  | .float => Single
  | .double => Double
  | .bool | .string | .bytes | .enum | .message | .group => Empty

instance : (kind : Kind) → RuleNumber kind.NumberType
  | .int32 | .sint32 | .sfixed32 => inferInstanceAs (RuleNumber Signed32)
  | .uint32 | .fixed32 => inferInstanceAs (RuleNumber Unsigned32)
  | .int64 | .sint64 | .sfixed64 => inferInstanceAs (RuleNumber Signed64)
  | .uint64 | .fixed64 => inferInstanceAs (RuleNumber Unsigned64)
  | .float => inferInstanceAs (RuleNumber Single)
  | .double => inferInstanceAs (RuleNumber Double)
  | .bool | .string | .bytes | .enum | .message | .group => ⟨nofun, nofun⟩

/-- The number of JSON that a number of rules is: the same whole number, the same number of 64 bits,
or the one with the shortest decimal of a number of 32 bits. -/
def Denotes : (kind : Kind) → kind.NumberType → Number → Prop
  | .int32, (value : Signed32), n | .sint32, (value : Signed32), n
  | .sfixed32, (value : Signed32), n => ∃ i, n = .int i ∧ i.val = value.val
  | .uint32, (value : Unsigned32), n | .fixed32, (value : Unsigned32), n =>
    ∃ i, n = .int i ∧ i.val = value.val
  | .int64, (value : Signed64), n | .sint64, (value : Signed64), n
  | .sfixed64, (value : Signed64), n => ∃ i, n = .int i ∧ i.val = value.val
  | .uint64, (value : Unsigned64), n | .fixed64, (value : Unsigned64), n =>
    ∃ i, n = .int i ∧ i.val = value.val
  | .float, (value : Single), n => ∃ d, n = .double d ∧ value.toDouble? = some d
  | .double, (value : Double), n => ∃ d, n = .double d ∧ value = .finite d
  | .bool, value, _ | .string, value, _ | .bytes, value, _ | .enum, value, _
  | .message, value, _ | .group, value, _ => nomatch value

/-- Of all numbers of rules only floating-point numbers may be something else than finite. -/
def IsFinite : (kind : Kind) → kind.NumberType → Prop
  | .float, (value : Single) => value.finite?.isSome = true
  | .double, (value : Double) => value.finite?.isSome = true
  | _, _ => True

/-- An infinite number of 32 bits. -/
def IsInfiniteSingle : (kind : Kind) → kind.NumberType → Prop
  | .float, (value : Single) => ∃ negative, value = .infinite negative
  | _, _ => False

variable {kind : Kind} {value : kind.NumberType}

theorem exists_denotes (h : kind.IsFinite value) :
    ∃ n, RuleNumber.toJson value = .num n ∧ kind.Denotes value n := by
  cases kind with
  | bool | string | bytes | enum | message | group => nomatch value
  | double =>
    cases value with
    | infinite | nan => cases h
    | finite value => exact ⟨.double value, rfl, value, rfl, rfl⟩
  | float =>
    cases value with
    | infinite | nan => cases h
    | finite value =>
      obtain ⟨d, hd⟩ := Floating.exists_toDouble? value
      refine ⟨.double d, ?_, d, rfl, hd⟩
      show (Floating.finite value).toDouble?.elim Json.null _ = _
      rw [hd]
      rfl
  | _ => exact ⟨_, rfl, _, rfl, rfl⟩

theorem toJson_of_not_isFinite (h : ¬ kind.IsFinite value) : RuleNumber.toJson value = .null := by
  cases kind with
  | float | double =>
    cases value with
    | finite value => exact absurd rfl h
    | infinite | nan => rfl
  | _ => exact absurd trivial h

/-- A number of rules is a number or null. -/
theorem toJson_cases (value : kind.NumberType) :
    (∃ n, RuleNumber.toJson value = .num n) ∨ RuleNumber.toJson value = .null := by
  by_cases hfinite : kind.IsFinite value
  · obtain ⟨n, hn, -⟩ := exists_denotes hfinite
    exact .inl ⟨n, hn⟩
  · exact .inr (toJson_of_not_isFinite hfinite)

end Kind

/-- The rules for numbers of a kind. -/
def FieldRules.numbers (rules : FieldRules) : (kind : Kind) → Option (NumericRules kind.NumberType)
  | .int32 => rules.int32
  | .sint32 => rules.sint32
  | .sfixed32 => rules.sfixed32
  | .int64 => rules.int64
  | .sint64 => rules.sint64
  | .sfixed64 => rules.sfixed64
  | .uint32 => rules.uint32
  | .fixed32 => rules.fixed32
  | .uint64 => rules.uint64
  | .fixed64 => rules.fixed64
  | .float => rules.float
  | .double => rules.double
  | .bool | .string | .bytes | .enum | .message | .group => none

/-- A bound that rules for numbers can set. -/
inductive Bound where
  | atLeast
  | atMost
  | greater
  | less

namespace Bound

/-- The keyword of a bound. -/
def keyword : Bound → String
  | atLeast => "minimum"
  | atMost => "maximum"
  | greater => "exclusiveMinimum"
  | less => "exclusiveMaximum"

/-- The bound as rules set it. -/
def of? {α : Type} (rules : NumericRules α) : Bound → Option α
  | atLeast => rules.atLeast
  | atMost => rules.atMost
  | greater => rules.greater
  | less => rules.less

end Bound

theorem Bound.mem_values {α : Type} {rules : NumericRules α} {limit : α} (bound : Bound)
    (h : bound.of? rules = some limit) : limit ∈ rules.values := by
  simp only [NumericRules.values, List.mem_append, Option.mem_toList]
  cases bound <;> simp_all [Bound.of?]

/-- A bound of the rules for numbers of a kind. -/
def FieldRules.limit? (rules : FieldRules) (kind : Kind) (bound : Bound) :
    Option kind.NumberType :=
  (rules.numbers kind).bind bound.of?

namespace FieldRules

variable {rules : FieldRules} {kind : Kind}

/-- The keywords of a kind are those of the rules for its numbers, or the kind has no numbers and
none of its keywords is one for a bound. -/
theorem keywords_cases (rules : FieldRules) (kind : Kind) (enum : Option EnumType) :
    rules.keywords kind enum = (rules.numbers kind).elim [] (·.keywords) ∨
    rules.numbers kind = none ∧
      ∀ bound : Bound, bound.keyword ∉ (rules.keywords kind enum).map Prod.fst := by
  cases kind with
  | bool | string | bytes | enum | message | group =>
    refine .inr ⟨rfl, ?_⟩
    intro bound hin
    have hkey := rules.keys_subset _ enum hin
    cases bound <;> simp [Kind.ruleKeys, Bound.keyword] at hkey
  | _ => exact .inl rfl

theorem keywords_of_numbers {own : NumericRules kind.NumberType} (h : rules.numbers kind = some own)
    (enum : Option EnumType) : rules.keywords kind enum = own.keywords := by
  obtain hown | ⟨hnone, -⟩ := rules.keywords_cases kind enum
  · rw [hown, h]
    rfl
  · rw [h] at hnone
    cases hnone

/-- Without rules for its numbers a kind has no keyword for a bound. -/
theorem keyword_not_mem (h : rules.numbers kind = none) (enum : Option EnumType) (bound : Bound) :
    bound.keyword ∉ (rules.keywords kind enum).map Prod.fst := by
  obtain hown | ⟨-, hkey⟩ := rules.keywords_cases kind enum
  · rw [hown, h]
    exact List.not_mem_nil
  · exact hkey bound

end FieldRules

/-! ## What rules are read with -/

namespace Written

theorem single?_ne_nan {w : Written} : w.single? ≠ some .nan := by
  intro h
  unfold single? at h
  split at h
  · next n =>
    unfold Floating.ofInt at h
    split at h <;> cases h
  · next d =>
    unfold Floating.ofBinary at h
    split at h <;> cases h
  · cases h
  · cases h

theorem finite_of_double? {w : Written} {x : Double} (h : w.double? = some x) :
    ∃ value, x = .finite value := by
  unfold double? at h
  split at h
  · obtain ⟨value, -, rfl⟩ := Option.map_eq_some_iff.1 h
    exact ⟨value, rfl⟩
  · exact ⟨_, (Option.some.inj h).symm⟩
  · obtain ⟨value, -, rfl⟩ := Option.map_eq_some_iff.1 h
    exact ⟨value, rfl⟩
  · cases h

end Written

theorem NumericRules.exists_part_of_decode? {α : Type} [RuleDecoding α] {w : Written}
    {rules : NumericRules α} (h : decode? w = some rules) :
    ∀ v ∈ rules.values, ∃ part, RuleDecoding.decode? part = some v := by
  unfold decode? at h
  obtain ⟨r, -, h⟩ := Option.bind_eq_some_iff.1 h
  obtain ⟨const, hconst, h⟩ := Option.bind_eq_some_iff.1 h
  obtain ⟨greater, hgreater, h⟩ := Option.bind_eq_some_iff.1 h
  obtain ⟨atLeast, hatLeast, h⟩ := Option.bind_eq_some_iff.1 h
  obtain ⟨less, hless, h⟩ := Option.bind_eq_some_iff.1 h
  obtain ⟨atMost, hatMost, h⟩ := Option.bind_eq_some_iff.1 h
  obtain ⟨among, hamong, h⟩ := Option.bind_eq_some_iff.1 h
  obtain ⟨notAmong, hnotAmong, h⟩ := Option.bind_eq_some_iff.1 h
  obtain rfl := Option.some.inj h
  have hoptional : ∀ {key} {o : Option α}, r.optional? key RuleDecoding.decode? = some o →
      ∀ v ∈ o, ∃ part, RuleDecoding.decode? part = some v := by
    rintro key o ho v rfl
    obtain ⟨field, -, -, hpart⟩ := Record.exists_part_of_optional? ho
    exact ⟨field.2, hpart⟩
  have hlist : ∀ {key} {values : List α},
      r.withDefault? key [] (Written.list? RuleDecoding.decode?) = some values →
      ∀ v ∈ values, ∃ part, RuleDecoding.decode? part = some v := by
    intro key values hvalues v hv
    rcases Record.default_or_part_of_withDefault? hvalues with rfl | ⟨field, -, hpart⟩
    · cases hv
    · exact exists_of_list? hpart v hv
  simp only [values, List.mem_append, Option.mem_toList, or_imp, forall_and]
  exact ⟨⟨⟨⟨⟨⟨hoptional hconst, hoptional hgreater⟩, hoptional hatLeast⟩, hoptional hless⟩,
    hoptional hatMost⟩, hlist hamong⟩, hlist hnotAmong⟩

namespace FieldRules

variable {rules : FieldRules} {w : Written}

theorem exists_part_of_decode? (h : decode? w = some rules) :
    (∀ own, rules.float = some own → ∃ part, NumericRules.decode? part = some own) ∧
      ∀ own, rules.double = some own → ∃ part, NumericRules.decode? part = some own := by
  rw [decode?] at h
  -- the rules of the kinds that are read before
  iterate 16 obtain ⟨_, -, h⟩ := Option.bind_eq_some_iff.1 h
  obtain ⟨float, hfloat, h⟩ := Option.bind_eq_some_iff.1 h
  obtain ⟨double, hdouble, h⟩ := Option.bind_eq_some_iff.1 h
  obtain ⟨repeated, -, h⟩ := Option.bind_eq_some_iff.1 h
  obtain ⟨map, -, h⟩ := Option.bind_eq_some_iff.1 h
  obtain rfl := Option.some.inj h
  constructor <;> rintro own rfl
  · obtain ⟨field, -, -, hpart⟩ := Record.exists_part_of_optional? hfloat
    exact ⟨field.2, hpart⟩
  · obtain ⟨field, -, -, hpart⟩ := Record.exists_part_of_optional? hdouble
    exact ⟨field.2, hpart⟩

/-- Rules that have been read have numbers that are finite, but for infinite ones of 32 bits. -/
theorem isFinite_iff_of_decode? (h : decode? w = some rules) {kind : Kind}
    {own : NumericRules kind.NumberType} (hown : rules.numbers kind = some own) :
    ∀ v ∈ own.values, kind.IsFinite v ↔ ¬ kind.IsInfiniteSingle v := by
  obtain ⟨hfloat, hdouble⟩ := exists_part_of_decode? h
  intro v hv
  cases kind with
  | float =>
    obtain ⟨part, hpart⟩ := hfloat own hown
    obtain ⟨number, hnumber⟩ := NumericRules.exists_part_of_decode? hpart v hv
    cases v with
    | finite value => exact ⟨fun _ => nofun, fun _ => rfl⟩
    | infinite negative => exact ⟨nofun, fun hnone => absurd ⟨negative, rfl⟩ hnone⟩
    | nan => exact absurd hnumber Written.single?_ne_nan
  | double =>
    obtain ⟨part, hpart⟩ := hdouble own hown
    obtain ⟨number, hnumber⟩ := NumericRules.exists_part_of_decode? hpart v hv
    obtain ⟨value, rfl⟩ := Written.finite_of_double? hnumber
    exact ⟨fun _ => id, fun _ => rfl⟩
  | _ => exact ⟨fun _ => id, fun _ => trivial⟩

end FieldRules

/-! ## What rules put into a schema -/

section Lookup

variable {α : Type} [RuleNumber α] (rules : NumericRules α) (members : Members)

theorem get?_bound_keywords (bound : Bound) :
    Members.get? bound.keyword rules.keywords =
      ((bound.of? rules).filter fun limit => !RuleNumber.isZero limit).map RuleNumber.toJson := by
  cases bound <;>
    simp [NumericRules.keywords, Members.get?_append, get?_keyword, get?_listed, Bound.keyword,
      Bound.of?]

theorem get?_putAll_bound (bound : Bound) :
    Members.get? bound.keyword (Members.putAll members rules.keywords) =
      (((bound.of? rules).filter fun limit => !RuleNumber.isZero limit).map
        RuleNumber.toJson).or (Members.get? bound.keyword members) := by
  rw [Members.get?_putAll_of_nodup rules.keys_nodup, get?_bound_keywords]

end Lookup

namespace Json

/-- **A bound that is set and not zero is stated as a number**, the same whole number for integers
of every range, unless it is not finite: then it is stated as null. Of the bounds of rules that have
been read that can only be an infinite number of 32 bits. The keyword of a bound that is not set, or
is zero, stays as it was. -/
theorem withRules_bounds (rules : FieldRules) (kind : Kind) (enum : Option EnumType)
    (members : Members) :
    ∃ changed, (obj members).withRules rules kind enum = .obj changed ∧ ∀ bound : Bound,
      (∀ limit, rules.limit? kind bound = some limit → RuleNumber.isZero limit = false →
        (kind.IsFinite limit → ∃ n, Members.get? bound.keyword changed = some (.num n) ∧
          kind.Denotes limit n) ∧
        (¬ kind.IsFinite limit → Members.get? bound.keyword changed = some .null) ∧
        ∀ w, FieldRules.decode? w = some rules →
          (kind.IsFinite limit ↔ ¬ kind.IsInfiniteSingle limit)) ∧
      ((∀ limit, rules.limit? kind bound = some limit → RuleNumber.isZero limit = true) →
        Members.get? bound.keyword changed = Members.get? bound.keyword members) := by
  refine ⟨_, rfl, ?_⟩
  intro bound
  cases hnumbers : rules.numbers kind with
  | none =>
    have hlimit : rules.limit? kind bound = none := by simp [FieldRules.limit?, hnumbers]
    have hkey := FieldRules.keyword_not_mem hnumbers enum bound
    simp [hlimit, Members.get?_putAll_of_not_mem hkey]
  | some own =>
    have hlimit : rules.limit? kind bound = bound.of? own := by simp [FieldRules.limit?, hnumbers]
    rw [FieldRules.keywords_of_numbers hnumbers, get?_putAll_bound, hlimit]
    constructor
    · intro limit hset hzero
      have hstated : (bound.of? own).filter (fun limit => !RuleNumber.isZero limit) =
          some limit := by simp [hset, hzero]
      simp only [hstated, Option.map_some, Option.some_or, Option.some.injEq]
      refine ⟨Kind.exists_denotes, Kind.toJson_of_not_isFinite, fun w hread => ?_⟩
      exact FieldRules.isFinite_iff_of_decode? hread hnumbers limit (bound.mem_values hset)
    · intro hzero
      have hdropped : (bound.of? own).filter (fun limit => !RuleNumber.isZero limit) = none := by
        simpa using hzero
      simp [hdropped]

/-- Rules for numbers of 32 bits with a bound that is too large for them. -/
def hugeBoundText : String := "\x7b\"float\":\x7b\"gte\":1e39\x7d\x7d"

/-- The bound is read as an infinite number, which is not zero, and its keyword is null. -/
theorem huge_bound_null : ∃ rules,
    (Written.read? hugeBoundText).bind FieldRules.decode? = some rules ∧
    rules.limit? .float .atLeast = some (Floating.infinite false : Single) ∧
    RuleNumber.isZero (Floating.infinite false : Single) = false ∧
    (obj [("type", .str "number")]).withRules rules .float none =
      .obj [("type", .str "number"), ("minimum", .null)] := by
  obtain ⟨rules, hread, hfloat⟩ : ∃ rules,
      (Written.read? hugeBoundText).bind FieldRules.decode? = some rules ∧
      decide (rules.float = some { atLeast := some (.infinite false) }) = true :=
    (Option.any_eq_true _ _).1 (by decide +kernel)
  replace hfloat := of_decide_eq_true hfloat
  refine ⟨rules, hread, ?_, rfl, ?_⟩
  · simp only [FieldRules.limit?, FieldRules.numbers, hfloat]
    rfl
  · simp only [withRules, FieldRules.keywords, hfloat]
    rfl

end Json

end MessageSchema
