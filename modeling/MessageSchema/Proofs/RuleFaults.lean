import MessageSchema.Proofs.Bounds
import MessageSchema.Proofs.LiteralPattern
import MessageSchema.Proofs.Validity

/-!
# What can be wrong with the keywords of rules

Two rules can be stated as keywords that are no good: a pattern that is no regular expression, and
a bound that is not finite, which is written as null (`FieldRules.Flaw`). All other keywords of
rules have values of their shape, whatever the rules say (`FieldRules.hasOnly_keywords`), if only
the patterns of literal texts are patterns.
-/

namespace MessageSchema

open Json PatternSyntax

variable [PatternSyntax]

/-- What the rules for values of a kind say that cannot be stated in a schema. Only floating-point
numbers are ever not finite. -/
inductive FieldRules.Flaw (rules : FieldRules) : Kind → Fault → Prop
  | pattern {own : StringRules} {text : String} (h : rules.string = some own)
      (ht : own.pattern = some text) (invalid : isPattern text = false) :
      Flaw rules .string (.notPattern text)
  | bound {kind : Kind} {own : NumericRules kind.NumberType} {limit : kind.NumberType}
      (h : rules.numbers kind = some own)
      (hl : some limit ∈ [own.greater, own.atLeast, own.less, own.atMost])
      (notFinite : ¬ kind.IsFinite limit) : Flaw rules kind (.notOfType .null ["number"])

section Keywords

variable {Q : Fault → Prop} {key : String}

theorem hasOnly_keyword {α : Type} {toJson : α → Json} {rule : Option α}
    (h : ∀ value, rule = some value → KeywordHasOnly Q key (toJson value)) :
    (keyword key toJson rule).HasOnly Q := by
  intro entry hin
  obtain ⟨value, hvalue, rfl⟩ := mem_keyword hin
  exact h value hvalue

theorem hasOnly_flag {value : Json} {isSet : Bool} (h : KeywordHasOnly Q key value) :
    (flag key value isSet).HasOnly Q := by
  cases isSet with
  | false => exact .nil
  | true => exact .cons h .nil

theorem hasOnly_listed {values : List Json} (h : KeywordHasOnly Q key (.arr values)) :
    (listed key values).HasOnly Q := by
  intro entry hin
  obtain ⟨-, rfl⟩ := mem_listed hin
  exact h

theorem hasOnly_elim {ρ : Type} {rules : Option ρ} {keywords : ρ → Members}
    (h : ∀ own, rules = some own → (keywords own).HasOnly Q) :
    Members.HasOnly Q (rules.elim [] keywords) := by
  cases rules with
  | none => exact .nil
  | some own => exact h own rfl

theorem keywordHasOnly_ofSize (n : Unsigned64) (hkey : isPlain key = true := by decide)
    (hshape : Shape.ofKeyword [] key ∈ ([.count, .any] : List Shape) := by decide) :
    KeywordHasOnly Q key (ofSize n) := by
  have hwhole : (Number.int n.toInteger).isWhole = true := rfl
  have hnegative : (Number.int n.toInteger).isNegative = false :=
    decide_eq_false (not_lt.2 n.least_le)
  refine .of_harmless rfl ?_ hkey
  rw [ofSize, Json.int]
  simp only [List.mem_cons, List.not_mem_nil, or_false] at hshape
  rcases hshape with hcount | hany
  · rw [hcount, plainFault?, hwhole, hnegative]
    rfl
  · rw [hany]
    rfl

theorem keywordHasOnly_pattern {text : String} (h : isPattern text = true) :
    KeywordHasOnly Q "pattern" (.str text) := by
  refine .of_harmless rfl ?_
  show (if true && !isPattern text then _ else none) = none
  rw [h]
  rfl

theorem StringRules.hasOnly_keywords (takes : TakesGenerated) (rules : StringRules)
    (h : ∀ text, rules.pattern = some text → isPattern text = false → Q (.notPattern text)) :
    rules.keywords.HasOnly Q := by
  have hformat : ∀ name, KeywordHasOnly Q "format" (.str name) := fun _ =>
    .of_harmless rfl rfl
  unfold StringRules.keywords
  repeat' apply Members.HasOnly.append
  · exact hasOnly_keyword fun n _ => keywordHasOnly_ofSize n
  · exact hasOnly_keyword fun n _ => keywordHasOnly_ofSize n
  · refine hasOnly_keyword fun text htext => ?_
    cases hv : isPattern text with
    | true => exact keywordHasOnly_pattern hv
    | false =>
      refine .of_plain rfl fun fault hf => ?_
      replace hf : (if true && !isPattern text then some (Fault.notPattern text) else none) =
        some fault := hf
      rw [hv] at hf
      cases hf
      exact h text htext hv
  · exact hasOnly_flag (hformat _)
  · exact hasOnly_flag (hformat _)
  · exact hasOnly_flag (hformat _)
  · exact hasOnly_keyword fun _ _ => .of_harmless rfl rfl
  · exact hasOnly_listed (.of_harmless (containsRef_strings _) rfl)
  · exact hasOnly_keyword fun start _ => keywordHasOnly_pattern (takes.start start)
  · exact hasOnly_keyword fun ending _ => keywordHasOnly_pattern (takes.ending ending)

theorem BytesRules.hasOnly_keywords (rules : BytesRules) : rules.keywords.HasOnly Q := by
  unfold BytesRules.keywords
  repeat' apply Members.HasOnly.append
  · exact hasOnly_keyword fun _ _ => .of_harmless rfl rfl
  · exact hasOnly_keyword fun n _ => keywordHasOnly_ofSize n
  · exact hasOnly_keyword fun n _ => keywordHasOnly_ofSize n

theorem BoolRules.hasOnly_keywords (rules : BoolRules) : rules.keywords.HasOnly Q :=
  hasOnly_keyword fun _ _ => .of_harmless rfl rfl

theorem EnumRules.hasOnly_keywords (rules : EnumRules) (enum : EnumType) :
    (rules.keywords enum).HasOnly Q := by
  refine Members.HasOnly.append ?_ ?_
  · exact hasOnly_keyword fun _ _ => .of_harmless rfl rfl
  · exact hasOnly_listed (.of_harmless (containsRef_strings _) rfl)

/-- Rules for numbers are as good as the numbers that they have for bounds. -/
theorem NumericRules.hasOnly_keywords {α : Type} [RuleNumber α] (rules : NumericRules α)
    (hnumber : ∀ value : α, (∃ n, RuleNumber.toJson value = .num n) ∨
      RuleNumber.toJson value = .null)
    (hnull : ∀ value, some value ∈ [rules.greater, rules.atLeast, rules.less, rules.atMost] →
      RuleNumber.toJson value = .null → Q (.notOfType .null ["number"])) :
    rules.keywords.HasOnly Q := by
  have hscalar : ∀ value : α, (RuleNumber.toJson value).containsRef = false := by
    intro value
    rcases hnumber value with ⟨n, hn⟩ | hn <;>
    · rw [hn]
      rfl
  have hbound : ∀ key, isPlain key = true ∧ Shape.ofKeyword [] key = .number → ∀ limit,
      limit ∈ [rules.greater, rules.atLeast, rules.less, rules.atMost] →
      Members.HasOnly Q (keyword key RuleNumber.toJson
        (limit.filter fun value => !RuleNumber.isZero value)) := by
    intro key ⟨hkey, hshape⟩ limit hlimit
    refine hasOnly_keyword fun value hvalue => ?_
    have hsome : limit = some value := (Option.filter_eq_some_iff.1 hvalue).1
    subst hsome
    refine .of_plain (hscalar value) (fun fault hf => ?_) hkey
    rcases hnumber value with ⟨n, hn⟩ | hn
    · rw [hshape, hn] at hf
      cases hf
    · rw [hshape, hn] at hf
      cases hf
      exact hnull value hlimit hn
  unfold NumericRules.keywords
  simp only
  repeat' apply Members.HasOnly.append
  · exact hasOnly_keyword fun value _ => .of_harmless (hscalar value) rfl
  · exact hbound _ (by decide) _ (by simp)
  · exact hbound _ (by decide) _ (by simp)
  · exact hbound _ (by decide) _ (by simp)
  · exact hbound _ (by decide) _ (by simp)
  · refine hasOnly_listed (.of_harmless (itemsMention_eq_false fun item hin => ?_) rfl)
    obtain ⟨value, -, rfl⟩ := List.mem_map.1 hin
    exact hscalar value

/-- **The keywords of rules have no faults but those that the rules say.** -/
theorem FieldRules.hasOnly_keywords (takes : TakesGenerated) (rules : FieldRules) (kind : Kind)
    (enum : Option EnumType) (h : ∀ fault, rules.Flaw kind fault → Q fault) :
    (rules.keywords kind enum).HasOnly Q := by
  have hnumbers : ∀ {own : NumericRules kind.NumberType}, rules.numbers kind = some own →
      own.keywords.HasOnly Q := by
    intro own hown
    refine own.hasOnly_keywords Kind.toJson_cases fun value hbound hnull => ?_
    refine h _ (.bound hown hbound fun hfinite => ?_)
    obtain ⟨n, hn, -⟩ := Kind.exists_denotes hfinite
    rw [hn] at hnull
    cases hnull
  cases kind with
  | string =>
    refine hasOnly_elim fun own hown => own.hasOnly_keywords takes fun text htext hinvalid => ?_
    exact h _ (.pattern hown htext hinvalid)
  | bytes => exact hasOnly_elim fun own _ => own.hasOnly_keywords
  | bool => exact hasOnly_elim fun own _ => own.hasOnly_keywords
  | enum => exact hasOnly_elim fun own _ => hasOnly_elim fun e _ => own.hasOnly_keywords e
  | message | group => exact .nil
  | _ => exact hasOnly_elim fun own hown => hnumbers hown

theorem RepeatedRules.hasOnly_keywords {ρ : Type} (rules : RepeatedRules ρ) :
    rules.keywords.HasOnly Q := by
  unfold RepeatedRules.keywords
  repeat' apply Members.HasOnly.append
  · exact hasOnly_keyword fun n _ => keywordHasOnly_ofSize n
  · exact hasOnly_keyword fun n _ => keywordHasOnly_ofSize n
  · exact hasOnly_flag (.of_harmless rfl rfl)

theorem MapRules.hasOnly_keywords {ρ : Type} (rules : MapRules ρ) : rules.keywords.HasOnly Q := by
  refine Members.HasOnly.append ?_ ?_
  · exact hasOnly_keyword fun n _ => keywordHasOnly_ofSize n
  · exact hasOnly_keyword fun n _ => keywordHasOnly_ofSize n

end Keywords

end MessageSchema
