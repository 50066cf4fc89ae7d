import MessageSchema.Proofs.Members

/-!
# The keywords of rules

Rules for the values of a kind put nothing into a schema but the keywords of that kind
(`FieldRules.keys_subset`), and rules for messages put nothing at all.
-/

namespace MessageSchema

/-- The keywords that rules for values of a kind can put into a schema. -/
def Kind.ruleKeys : Kind → List String
  | .string => ["minLength", "maxLength", "pattern", "format", "const", "enum"]
  | .bytes => ["const", "minByteLength", "maxByteLength"]
  | .bool => ["const"]
  | .enum => ["const", "enum"]
  | .message | .group => []
  | _ => ["const", "minimum", "maximum", "exclusiveMinimum", "exclusiveMaximum", "enum"]

theorem mem_keyword {α : Type} {key : String} {toJson : α → Json} {rule : Option α}
    {entry : String × Json} (h : entry ∈ keyword key toJson rule) :
    ∃ value, rule = some value ∧ entry = (key, toJson value) := by
  cases rule with
  | none => cases h
  | some value => exact ⟨value, rfl, List.mem_singleton.1 h⟩

theorem mem_listed {key : String} {values : List Json} {entry : String × Json}
    (h : entry ∈ listed key values) : values ≠ [] ∧ entry = (key, .arr values) := by
  cases values with
  | nil => cases h
  | cons value rest => exact ⟨List.cons_ne_nil _ _, List.mem_singleton.1 h⟩

theorem get?_keyword {α : Type} {key name : String} (toJson : α → Json) (rule : Option α) :
    Members.get? name (keyword key toJson rule) = if key = name then rule.map toJson else none := by
  cases rule <;> simp [keyword, Members.get?]

theorem get?_listed {key name : String} (values : List Json) :
    Members.get? name (listed key values) =
      if key = name ∧ values ≠ [] then some (.arr values) else none := by
  cases values <;> simp [listed, Members.get?]

section Keys

variable {keys : List String} {key : String}

theorem keys_keyword_subset {α : Type} {toJson : α → Json} {rule : Option α} (h : key ∈ keys) :
    (keyword key toJson rule).map Prod.fst ⊆ keys := by
  cases rule with
  | none => exact List.nil_subset _
  | some value => exact List.cons_subset.2 ⟨h, List.nil_subset _⟩

theorem keys_flag_subset {value : Json} {isSet : Bool} (h : key ∈ keys) :
    (flag key value isSet).map Prod.fst ⊆ keys := by
  cases isSet with
  | false => exact List.nil_subset _
  | true => exact List.cons_subset.2 ⟨h, List.nil_subset _⟩

theorem keys_listed_subset {values : List Json} (h : key ∈ keys) :
    (listed key values).map Prod.fst ⊆ keys := by
  cases values with
  | nil => exact List.nil_subset _
  | cons value rest => exact List.cons_subset.2 ⟨h, List.nil_subset _⟩

theorem keys_append_subset {first second : Members} (hf : first.map Prod.fst ⊆ keys)
    (hs : second.map Prod.fst ⊆ keys) : (first ++ second).map Prod.fst ⊆ keys := by
  rw [List.map_append]
  exact List.append_subset.2 ⟨hf, hs⟩

end Keys

theorem StringRules.keys_subset (rules : StringRules) :
    rules.keywords.map Prod.fst ⊆ Kind.string.ruleKeys := by
  unfold StringRules.keywords
  repeat' apply keys_append_subset
  all_goals first
    | exact keys_keyword_subset (by decide)
    | exact keys_flag_subset (by decide)
    | exact keys_listed_subset (by decide)

theorem BytesRules.keys_subset (rules : BytesRules) :
    rules.keywords.map Prod.fst ⊆ Kind.bytes.ruleKeys := by
  unfold BytesRules.keywords
  repeat' apply keys_append_subset
  all_goals exact keys_keyword_subset (by decide)

theorem BoolRules.keys_subset (rules : BoolRules) :
    rules.keywords.map Prod.fst ⊆ Kind.bool.ruleKeys :=
  keys_keyword_subset (by decide)

theorem EnumRules.keys_subset (rules : EnumRules) (enum : EnumType) :
    (rules.keywords enum).map Prod.fst ⊆ Kind.enum.ruleKeys :=
  keys_append_subset (keys_keyword_subset (by decide)) (keys_listed_subset (by decide))

theorem NumericRules.keys_sublist {α : Type} [RuleNumber α] (rules : NumericRules α) :
    (rules.keywords.map Prod.fst).Sublist
      ["const", "minimum", "maximum", "exclusiveMinimum", "exclusiveMaximum", "enum"] := by
  have hkeyword : ∀ (key : String) (rule : Option α),
      ((keyword key RuleNumber.toJson rule).map Prod.fst).Sublist [key] := by
    intro key rule
    cases rule <;> simp [keyword]
  have hlisted : ∀ values, ((listed "enum" values).map Prod.fst).Sublist ["enum"] := by
    intro values
    cases values <;> simp [listed]
  simp only [keywords, List.map_append]
  exact (((((hkeyword _ _).append (hkeyword _ _)).append (hkeyword _ _)).append
    (hkeyword _ _)).append (hkeyword _ _)).append (hlisted _)

theorem NumericRules.keys_subset {α : Type} [RuleNumber α] (rules : NumericRules α) :
    rules.keywords.map Prod.fst ⊆
      ["const", "minimum", "maximum", "exclusiveMinimum", "exclusiveMaximum", "enum"] :=
  rules.keys_sublist.subset

theorem NumericRules.keys_nodup {α : Type} [RuleNumber α] (rules : NumericRules α) :
    (rules.keywords.map Prod.fst).Nodup :=
  rules.keys_sublist.nodup (by decide)

/-- Rules that are not there state nothing. -/
theorem keys_elim_subset {ρ : Type} {keys : List String} {rules : Option ρ} {keywords : ρ → Members}
    (h : ∀ own, (keywords own).map Prod.fst ⊆ keys) :
    (rules.elim [] keywords).map Prod.fst ⊆ keys := by
  cases rules with
  | none => exact List.nil_subset _
  | some own => exact h own

/-- Rules state keywords of the kind alone. -/
theorem FieldRules.keys_subset (rules : FieldRules) (kind : Kind) (enum : Option EnumType) :
    (rules.keywords kind enum).map Prod.fst ⊆ kind.ruleKeys := by
  cases kind with
  | string => exact keys_elim_subset StringRules.keys_subset
  | bytes => exact keys_elim_subset BytesRules.keys_subset
  | bool => exact keys_elim_subset BoolRules.keys_subset
  | enum => exact keys_elim_subset fun own => keys_elim_subset own.keys_subset
  | message | group => exact List.nil_subset _
  | _ => exact keys_elim_subset NumericRules.keys_subset

theorem RepeatedRules.keys_subset {ρ : Type} (rules : RepeatedRules ρ) :
    rules.keywords.map Prod.fst ⊆ ["minItems", "maxItems", "uniqueItems"] :=
  keys_append_subset (keys_append_subset (keys_keyword_subset (by decide))
    (keys_keyword_subset (by decide))) (keys_flag_subset (by decide))

theorem MapRules.keys_subset {ρ : Type} (rules : MapRules ρ) :
    rules.keywords.map Prod.fst ⊆ ["minProperties", "maxProperties"] :=
  keys_append_subset (keys_keyword_subset (by decide)) (keys_keyword_subset (by decide))

namespace Json

/-- Rules leave what is not a keyword of the kind as it is. -/
theorem get?_withRules {rules : FieldRules} {kind : Kind} {enum : Option EnumType} {schema : Json}
    {key : String} (h : key ∉ kind.ruleKeys) :
    (schema.withRules rules kind enum).get? key = schema.get? key :=
  get?_putAll_of_not_mem fun hin => h (rules.keys_subset kind enum hin)

/-- Messages take no rules. -/
theorem withRules_message {rules : FieldRules} {enum : Option EnumType} (schema : Json) :
    schema.withRules rules .message enum = schema :=
  schema.putAll_nil

theorem get?_withRepeatedRules {ρ : Type} {rules : Option (RepeatedRules ρ)} {schema : Json}
    {key : String} (h : key ∉ ["minItems", "maxItems", "uniqueItems"]) :
    (schema.withRepeatedRules rules).get? key = schema.get? key :=
  get?_putAll_of_not_mem fun hin => h (keys_elim_subset (fun own => own.keys_subset) hin)

theorem get?_withMapRules {ρ : Type} {rules : Option (MapRules ρ)} {schema : Json}
    {key : String} (h : key ∉ ["minProperties", "maxProperties"]) :
    (schema.withMapRules rules).get? key = schema.get? key :=
  get?_putAll_of_not_mem fun hin => h (keys_elim_subset (fun own => own.keys_subset) hin)

end Json

end MessageSchema
