import MessageSchema.Proofs.Nullability
import MessageSchema.Proofs.Objects

/-!
# Null for fields that must be there

Two decisions are made apart: whether the name of a field is required, from its cardinality and its
rules, and whether null stands for an absent value, from its cardinality and its presence. They
agree on a field that is declared as required, and on one without presence. A field with presence
that only its rules require is required and takes null. Main statement: there are no others
(`Pool.required_without_null_iff`).
-/

namespace MessageSchema

namespace Json

def NamesNull (schema : Json) : Prop :=
  schema.get? "type" = some (.str "null") ∨
    ∃ names, schema.get? "type" = some (.arr names) ∧ .str "null" ∈ names

def HasNullBranch (schema : Json) : Prop :=
  ∃ branches, schema.get? "oneOf" = some (.arr branches) ∧ ∃ branch ∈ branches, branch.NamesNull

def Requires (document : Json) (name : String) : Prop :=
  ∃ names, document.get? "required" = some (.arr names) ∧ .str name ∈ names

end Json

open Json

namespace Field

variable {set : DescriptorSet} {f : Field} {value : Json}

theorem isNullable_iff : f.isNullable = true ↔ f.presence = true ∧ f.cardinality ≠ .required := by
  simp [isNullable]

/-- Null is among the types of a field exactly if it is added to the type of its value. -/
theorem namesNull_singleSchema_iff (h : value.OneType) :
    (f.singleSchema set value).NamesNull ↔ f.isNullable = true := by
  obtain ⟨type, htype, hne⟩ := h.type
  have hkept : (f.singleSchema set value).get? "type" = _ := get?_type_singleSchema
  unfold NamesNull
  rw [hkept, htype]
  cases f.isNullable with
  | true => simp [typeOrNull, strings]
  | false => simp [hne]

theorem not_namesNull_of_mem_floatBranches {branch : Json}
    (h : branch ∈ Fragment.floatBranches) : ¬ branch.NamesNull := by
  simp only [Fragment.floatBranches, List.mem_cons, List.not_mem_nil, or_false] at h
  obtain rfl | rfl := h <;> simp [NamesNull, Fragment.typed, get?, Members.get?]

/-- A branch for null is there exactly if there are branches and null is added. -/
theorem hasNullBranch_singleSchema_iff (h : value.OneType) :
    (f.singleSchema set value).HasNullBranch ↔
      f.isNullable = true ∧ ((f.singleSchema set value).get? "oneOf").isSome = true := by
  have hkept : (f.singleSchema set value).get? "oneOf" = _ := get?_oneOf_singleSchema
  unfold HasNullBranch
  rw [hkept]
  obtain hnone | hfloat := h.branches
  · simp [hnone]
  rw [hfloat]
  cases f.isNullable with
  | true =>
    refine iff_of_true ⟨_, rfl, .obj [("type", .str "null")], ?_, .inl rfl⟩ ⟨rfl, rfl⟩
    exact .tail _ (.tail _ (.head _))
  | false =>
    simp only [Bool.false_eq_true, if_false, false_and, iff_false]
    rintro ⟨branches, hbranches, branch, hbranch, hnull⟩
    obtain rfl := Json.arr.inj (Option.some.inj hbranches)
    exact not_namesNull_of_mem_floatBranches hbranch hnull

end Field

theorem MessageType.requires_shell_iff {m : MessageType} (schemas : List Json)
    (distinct : (m.fields.map (·.jsonName)).Nodup) {f : Field} (hf : f ∈ m.fields) :
    (m.shell schemas).Requires f.jsonName ↔ f.MustBeThere := by
  have hnames : (m.shell schemas).Requires f.jsonName ↔ f.jsonName ∈ m.requiredNames := by
    unfold Requires
    rw [get?_required_shell]
    by_cases hnone : m.requiredNames = []
    · simp [hnone]
    · simp [hnone, strings]
  rw [hnames, ← Field.isRequired_iff]
  constructor
  · intro hin
    obtain ⟨g, hg, hname⟩ := List.mem_map.1 hin
    obtain ⟨hgm, hrequired⟩ := List.mem_filter.1 hg
    rwa [← List.inj_on_of_nodup_map distinct hgm hf hname]
  · intro hrequired
    exact List.mem_map_of_mem (List.mem_filter.2 ⟨hf, hrequired⟩)

namespace Pool

open DescriptorSet

variable (pool : Pool)

/-- **A required field takes no null, unless it has presence and only its rules require it.** The
types of a field that holds one value, of no well-known type, include null exactly if it has
presence and is not declared as required, and then a `oneOf` has a branch for null as well. The
field is listed as required exactly if its cardinality or its rules say so. -/
theorem required_without_null_iff {m : pool.set.Message} {document : Json}
    (h : pool.schemaOf m = .ok document) (distinct : (m.val.fields.map (·.jsonName)).Nodup)
    {f : Field} (hf : f ∈ m.val.fields) (hlist : f.cardinality ≠ .repeated)
    (hmap : f.cardinality ≠ .map) (special : f.wellKnown? = none) :
    ∃ schema, document.at? ["properties", f.jsonName] = some schema ∧
      (document.Requires f.jsonName ↔ f.MustBeThere) ∧
      (schema.NamesNull ↔ f.presence = true ∧ f.cardinality ≠ .required) ∧
      (schema.HasNullBranch ↔
        (f.presence = true ∧ f.cardinality ≠ .required) ∧ (schema.get? "oneOf").isSome = true) ∧
      ((document.Requires f.jsonName → ¬ schema.NamesNull ∧ ¬ schema.HasNullBranch) ↔
        ¬ (f.presence = true ∧ f.cardinality = .singular ∧ f.MustBeThere)) := by
  have named := MessageType.lastNamed_of_nodup distinct hf
  obtain ⟨schema, hschema, hat⟩ := expandMessage_property List.not_mem_nil h named
  obtain ⟨schemas, -, rfl⟩ := (expandMessage_eq_ok_iff List.not_mem_nil).1 h
  rw [expandField_of_single hlist hmap special] at hschema
  cases hvalue : pool.set.expandValue [m.val.fullName] f with
  | error cause => rw [hvalue] at hschema; cases hschema
  | ok value =>
    rw [hvalue] at hschema
    obtain rfl := Except.ok.inj hschema
    have hvalue := oneType_expandValue special hvalue
    have hrequires := MessageType.requires_shell_iff schemas distinct hf
    have hnames : (f.singleSchema pool.set value).NamesNull ↔ _ :=
      f.namesNull_singleSchema_iff hvalue
    have hbranch : (f.singleSchema pool.set value).HasNullBranch ↔ _ :=
      f.hasNullBranch_singleSchema_iff hvalue
    rw [Field.isNullable_iff] at hnames hbranch
    refine ⟨_, hat [], hrequires, hnames, hbranch, ?_⟩
    have hsingle : f.cardinality ≠ .required ↔ f.cardinality = .singular := by
      cases hc : f.cardinality with
      | singular | required => simp
      | repeated => exact absurd hc hlist
      | map => exact absurd hc hmap
    rw [hrequires, hnames, hbranch, hsingle]
    constructor
    · rintro hwithout ⟨hpresence, hc, hmust⟩
      exact (hwithout hmust).1 ⟨hpresence, hc⟩
    · intro hnot hmust
      have hnever : ¬ (f.presence = true ∧ f.cardinality = .singular) :=
        fun h => hnot ⟨h.1, h.2, hmust⟩
      exact ⟨hnever, fun h => hnever h.1⟩

/-- A name that is optional for the reader and required by its rules. -/
def nick : Field :=
  ((Field.plain "nick" .string).asOptional).withRules .requiredOnly

/-- A share between none and all, which must be there. -/
def share : Field := ((Field.plain "share" .float).asRequired).asOptional

def memberType : MessageType where
  declaredName := "club.Member"
  fields := [nick, share]

/-- A pool in which two fields with presence are required. -/
def club : Pool where
  set := { messages := [memberType] }
  sound := by decide

def member : club.set.Message := ⟨memberType, .head _⟩

theorem club_required_without_null : ∃ document nickSchema shareSchema,
    club.schemaOf member = .ok document ∧
    document.at? ["properties", "nick"] = some nickSchema ∧ nickSchema.NamesNull ∧
    document.at? ["properties", "share"] = some shareSchema ∧ document.Requires "share" ∧
    ¬ shareSchema.NamesNull ∧ ¬ shareSchema.HasNullBranch := by
  obtain ⟨document, hdocument⟩ := club.exists_schemaOf member (by decide)
  have distinct : (member.val.fields.map (·.jsonName)).Nodup := by decide
  obtain ⟨nickSchema, hnick, -, hnull, -⟩ := club.required_without_null_iff hdocument distinct
    (f := nick) (.head _) (by decide) (by decide) rfl
  obtain ⟨shareSchema, hshare, hrequires, -, -, hwithout⟩ := club.required_without_null_iff
    hdocument distinct (f := share) (.tail _ (.head _)) (by decide) (by decide) rfl
  have hrequired : document.Requires "share" := hrequires.2 (.inl rfl)
  obtain ⟨htypes, hbranches⟩ := hwithout.2 (by decide) hrequired
  exact ⟨document, nickSchema, shareSchema, hdocument, hnick, hnull.2 (by decide), hshare,
    hrequired, htypes, hbranches⟩

/-- The rules require the name, which takes null all the same. -/
theorem nick_required_and_null : ∃ document schema, club.schemaOf member = .ok document ∧
    document.at? ["properties", "nick"] = some schema ∧ document.Requires "nick" ∧
    schema.NamesNull := by
  obtain ⟨document, hdocument, hfound⟩ : ∃ document, club.schemaOf member = .ok document ∧
      decide (document.at? ["properties", "nick"] =
          some (.obj [("type", .strings ["string", "null"])]) ∧
        document.get? "required" = some (.strings ["nick", "share"])) = true :=
    exists_schemaOf_with (by decide +kernel)
  obtain ⟨hschema, hrequired⟩ := of_decide_eq_true hfound
  exact ⟨document, _, hdocument, hschema, ⟨_, hrequired, .head _⟩, .inr ⟨_, rfl, .tail _ (.head _)⟩⟩

end Pool

end MessageSchema
