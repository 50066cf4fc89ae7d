import MessageSchema.Proofs.RuleKeys

/-!
# What rules change in a schema

Of all that the rules of a field say, only the set of its kind acts on a schema, and of that set
only what a keyword can state: this is `FieldRules.own`, and rules that agree there put the same
members into every schema. All that they put are keywords of the kind. Whatever else an object has
stays as it is, its keys keep their order, and new keys come after them (`Members.ChangedOnly`).
Main statement: `Json.withRules_changes`.
-/

namespace MessageSchema

/-! ## Rules that have a keyword -/

/-- The rules without those for which there is no keyword. -/
def StringRules.stated (rules : StringRules) : StringRules :=
  { rules with contains := none, notAmong := [] }

def BytesRules.stated (rules : BytesRules) : BytesRules := { rules with pattern := none }

def EnumRules.stated (rules : EnumRules) : EnumRules :=
  { rules with definedOnly := false, notAmong := [] }

def NumericRules.stated {α : Type} (rules : NumericRules α) : NumericRules α :=
  { rules with notAmong := [] }

@[simp] theorem StringRules.keywords_stated (rules : StringRules) :
    rules.stated.keywords = rules.keywords := rfl

@[simp] theorem BytesRules.keywords_stated (rules : BytesRules) :
    rules.stated.keywords = rules.keywords := rfl

@[simp] theorem EnumRules.keywords_stated (rules : EnumRules) (enum : EnumType) :
    rules.stated.keywords enum = rules.keywords enum := rfl

@[simp] theorem NumericRules.keywords_stated {α : Type} [RuleNumber α] (rules : NumericRules α) :
    rules.stated.keywords = rules.keywords := rfl

namespace FieldRules

/-- The rules for values of a kind and no others, as far as they have a keyword. -/
def own (rules : FieldRules) : Kind → FieldRules
  | .string => { string := rules.string.map (·.stated) }
  | .bytes => { bytes := rules.bytes.map (·.stated) }
  | .bool => { bool := rules.bool }
  | .enum => { enum := rules.enum.map (·.stated) }
  | .int32 => { int32 := rules.int32.map (·.stated) }
  | .sint32 => { sint32 := rules.sint32.map (·.stated) }
  | .sfixed32 => { sfixed32 := rules.sfixed32.map (·.stated) }
  | .int64 => { int64 := rules.int64.map (·.stated) }
  | .sint64 => { sint64 := rules.sint64.map (·.stated) }
  | .sfixed64 => { sfixed64 := rules.sfixed64.map (·.stated) }
  | .uint32 => { uint32 := rules.uint32.map (·.stated) }
  | .fixed32 => { fixed32 := rules.fixed32.map (·.stated) }
  | .uint64 => { uint64 := rules.uint64.map (·.stated) }
  | .fixed64 => { fixed64 := rules.fixed64.map (·.stated) }
  | .float => { float := rules.float.map (·.stated) }
  | .double => { double := rules.double.map (·.stated) }
  | .message | .group => {}

/-- Nothing but the rules of the kind is stated for its values. -/
theorem keywords_own (rules : FieldRules) (kind : Kind) (enum : Option EnumType) :
    (rules.own kind).keywords kind enum = rules.keywords kind enum := by
  cases kind with
  | bool | message | group => rfl
  | _ =>
    simp only [own, keywords, Option.elim_map]
    rfl

theorem keywords_eq_of_own {rules other : FieldRules} {kind : Kind}
    (h : other.own kind = rules.own kind) (enum : Option EnumType) :
    other.keywords kind enum = rules.keywords kind enum := by
  rw [← other.keywords_own, h, rules.keywords_own]

end FieldRules

/-! ## Everything else -/

namespace Members

/-- Between the members before and after nothing has changed but values under some keys, which may
be new. -/
structure ChangedOnly (keys : List String) (before after : Members) : Prop where
  others : after.filter (·.1 ∉ keys) = before.filter (·.1 ∉ keys)
  value : ∀ key, key ∉ keys → get? key after = get? key before
  order : ∃ new, after.map Prod.fst = before.map Prod.fst ++ new ∧
    (∀ key ∈ new, key ∈ keys ∧ key ∉ before.map Prod.fst) ∧
    ((before.map Prod.fst).Nodup → (after.map Prod.fst).Nodup)

/-- Putting members under some keys changes nothing else. -/
theorem changedOnly_putAll {keys : List String} {added : Members}
    (h : added.map Prod.fst ⊆ keys) (members : Members) :
    ChangedOnly keys members (putAll members added) := by
  constructor
  case others =>
    refine filter_putAll (p := fun key => decide (key ∉ keys)) fun key hin => ?_
    exact decide_eq_false (not_not_intro (h hin))
  case value =>
    intro key hkey
    exact get?_putAll_of_not_mem fun hin => hkey (h hin)
  case order =>
    refine ⟨_, keys_putAll members added, fun key hin => ?_, nodup_keys_putAll⟩
    rw [List.mem_eraseDups, List.mem_filter, decide_eq_true_eq] at hin
    exact ⟨h hin.1, hin.2⟩

end Members

namespace Json

/-- **Rules act on a schema through the set of its kind alone, and on keywords of the kind alone.**
Other rules with the same set give the same schema, as far as there are keywords for it. An object
changes under keywords of the kind and nowhere else, and what is no object does not change. -/
theorem withRules_changes {rules other : FieldRules} {kind : Kind}
    (h : other.own kind = rules.own kind) (enum : Option EnumType) (schema : Json) :
    schema.withRules other kind enum = schema.withRules rules kind enum ∧
    (∀ members, schema = .obj members → ∃ changed,
      schema.withRules rules kind enum = .obj changed ∧
      Members.ChangedOnly kind.ruleKeys members changed) ∧
    ((∀ members, schema ≠ .obj members) → schema.withRules rules kind enum = schema) := by
  refine ⟨?_, ?_, fun hscalar => ?_⟩
  · rw [withRules, FieldRules.keywords_eq_of_own h, withRules]
  · rintro members rfl
    exact ⟨_, rfl, Members.changedOnly_putAll (rules.keys_subset kind enum) members⟩
  · cases schema with
    | obj members => exact absurd rfl (hscalar members)
    | _ => rfl

/-- At least two, and at most nine. -/
def twoToNine : NumericRules Signed32 where
  atLeast := some ⟨2, by decide, by decide⟩
  atMost := some ⟨9, by decide, by decide⟩

def digitRules : FieldRules where
  sint32 := some twoToNine

/-- The same for numbers of one kind, and more that does not act on them. -/
def moreDigitRules : FieldRules where
  required := true
  int32 := some { twoToNine with atMost := some ⟨5, by decide, by decide⟩ }
  sint32 := some { twoToNine with notAmong := [⟨5, by decide, by decide⟩] }

theorem digits_withRules_changes : moreDigitRules.own .sint32 = digitRules.own .sint32 ∧
    (obj [("maximum", .str "none"), ("title", .str "Digit")]).withRules moreDigitRules .sint32
      none = obj [("maximum", .int ⟨9, by decide, by decide⟩), ("title", .str "Digit"),
        ("minimum", .int ⟨2, by decide, by decide⟩)] := by
  have hown : moreDigitRules.own .sint32 = digitRules.own .sint32 := rfl
  obtain ⟨hsame, -, -⟩ := withRules_changes hown none
    (obj [("maximum", .str "none"), ("title", .str "Digit")])
  exact ⟨hown, hsame.trans rfl⟩

end Json

end MessageSchema
