import MessageSchema.Descriptor.Construction
import MessageSchema.Proofs.Siblings

/-!
# Null for absent values

A field that tells absent values apart from empty ones allows null in its schema, if it holds one
value, need not be there and has no well-known type; that is all that explicit presence changes
(`expandField_asOptional`, `expandField_asOptional_of_kept`). The message is not expanded inside
itself, so one property of its document changes and nothing else. Main statement:
`Pool.presence_adds_null`.
-/

namespace MessageSchema

/-! ## Schemas that allow null too -/

namespace Json

/-- Between two schemas nothing has changed but that null is allowed too: beside the one type that
was named, and in a last branch where there are branches. -/
def NullAdded (before after : Json) : Prop :=
  ∃ type, before.get? "type" = some (.str type) ∧
    ((before.get? "oneOf" = none ∧ after = before.put "type" (.strings [type, "null"])) ∨
      ∃ branches, before.get? "oneOf" = some (.arr branches) ∧
        after = (before.put "type" (.strings [type, "null"])).put "oneOf"
          (.arr (branches ++ [.obj [("type", .str "null")]])))

/-- The schema names one type and does not allow null yet. -/
structure WithoutNull (schema : Json) : Prop where
  type : ∃ type, schema.get? "type" = some (.str type)
  branches : schema.get? "oneOf" = none ∨
    ∃ branches, schema.get? "oneOf" = some (.arr branches) ∧ branches.any isNullBranch = false

variable {schema : Json}

theorem WithoutNull.nullAdded_orNull (h : schema.WithoutNull) : NullAdded schema schema.orNull := by
  obtain ⟨⟨type, htype⟩, hbranches⟩ := h
  have hchanged : schema.change "type" typeOrNull =
      schema.put "type" (.strings [type, "null"]) := by
    simp only [change, htype, typeOrNull]
  have hother : (schema.put "type" (.strings [type, "null"])).get? "oneOf" = schema.get? "oneOf" :=
    get?_put_of_ne (by decide)
  refine ⟨type, htype, ?_⟩
  rw [orNull, hchanged]
  rcases hbranches with hnone | ⟨branches, hsome, hany⟩
  · refine .inl ⟨hnone, ?_⟩
    rw [change, hother, hnone]
  · refine .inr ⟨branches, hsome, ?_⟩
    simp only [change, hother, hsome, branchesOrNull, hany, Bool.false_eq_true, if_false]

/-- The schema names one type, which is not null, and its branches are those of numbers, if it has
any. -/
structure OneType (schema : Json) : Prop where
  type : ∃ type, schema.get? "type" = some (.str type) ∧ type ≠ "null"
  branches : schema.get? "oneOf" = none ∨
    schema.get? "oneOf" = some (.arr Fragment.floatBranches)

theorem OneType.withoutNull (h : schema.OneType) : schema.WithoutNull := by
  obtain ⟨⟨type, htype, -⟩, hbranches⟩ := h
  exact ⟨⟨type, htype⟩, hbranches.imp_right fun h => ⟨_, h, rfl⟩⟩

end Json

open Json

theorem Kind.oneType_fragment {kind : Kind} {enum : Option EnumType} {fragment : Json}
    (h : kind.fragment enum = .ok fragment) : fragment.OneType := by
  cases kind with
  | message | group => cases h
  | enum =>
    obtain rfl := Except.ok.inj h
    unfold Fragment.enumeration
    split <;> exact ⟨⟨_, rfl, by decide⟩, .inl rfl⟩
  | float | double =>
    obtain rfl := Except.ok.inj h
    exact ⟨⟨_, rfl, by decide⟩, .inr rfl⟩
  | _ =>
    obtain rfl := Except.ok.inj h
    exact ⟨⟨_, rfl, by decide⟩, .inl rfl⟩

theorem MessageType.oneType_shell (m : MessageType) (schemas : List Json) :
    (m.shell schemas).OneType := by
  refine ⟨⟨_, rfl, by decide⟩, .inl ?_⟩
  unfold shell listed
  split <;> rfl

namespace Field

variable {set : DescriptorSet} {f : Field} {value : Json}

/-- A description and rules leave the type of a value as it is, presence adds null to it. -/
theorem get?_type_singleSchema : (f.singleSchema set value).get? "type" =
    if f.isNullable then (value.get? "type").map typeOrNull else value.get? "type" := by
  have hkeys : "type" ∉ f.kind.ruleKeys := by cases f.kind <;> decide
  unfold singleSchema
  cases f.rules <;> split <;>
    simp [get?_type_orNull, get?_withRules hkeys, get?_withDescription]

theorem get?_oneOf_singleSchema : (f.singleSchema set value).get? "oneOf" =
    if f.isNullable then (value.get? "oneOf").map branchesOrNull else value.get? "oneOf" := by
  have hkeys : "oneOf" ∉ f.kind.ruleKeys := by cases f.kind <;> decide
  unfold singleSchema
  cases f.rules <;> split <;>
    simp [get?_oneOf_orNull, get?_withRules hkeys, get?_withDescription]

theorem oneType_singleSchema (hnull : f.isNullable = false) (h : value.OneType) :
    (f.singleSchema set value).OneType := by
  obtain ⟨htype, hbranches⟩ := h
  constructor
  · simpa [get?_type_singleSchema, hnull] using htype
  · simpa [get?_oneOf_singleSchema, hnull] using hbranches

end Field

/-! ## A field with presence -/

namespace DescriptorSet

variable {set : DescriptorSet} {inside : List String} {f : Field}

theorem oneType_expandMessage {m : set.Message} {document : Json}
    (h : set.expandMessage inside m = .ok document) : document.OneType := by
  by_cases hm : m.val.fullName ∈ inside
  · rw [expandMessage_of_mem hm] at h
    obtain rfl := Except.ok.inj h
    exact ⟨⟨_, rfl, by decide⟩, .inl rfl⟩
  · obtain ⟨schemas, -, rfl⟩ := (expandMessage_eq_ok_iff hm).1 h
    exact m.val.oneType_shell schemas

theorem oneType_expandValue {value : Json} (special : f.wellKnown? = none)
    (h : set.expandValue inside f = .ok value) : value.OneType := by
  by_cases hk : f.kind = .message
  · cases found : set.messageOf? f with
    | some m =>
      rw [expandValue_of_found hk special found] at h
      exact oneType_expandMessage h
    | none =>
      rw [expandValue_of_missing hk special found] at h
      cases h
  · rw [expandValue_of_kind hk] at h
    exact Kind.oneType_fragment h

theorem expandValue_asOptional (f : Field) :
    set.expandValue inside f.asOptional = set.expandValue inside f := by
  conv_lhs => rw [expandValue]
  conv_rhs => rw [expandValue]
  rfl

/-- A list, a map, a value that must be there and one of a well-known type are the same with
presence. -/
theorem expandField_asOptional_of_kept (h : f.cardinality ≠ .singular ∨ f.wellKnown? ≠ none) :
    set.expandField inside f.asOptional = set.expandField inside f := by
  by_cases hmap : f.cardinality = .map
  · have hmap' : f.asOptional.cardinality = .map := hmap
    conv_lhs => rw [expandField]
    conv_rhs => rw [expandField]
    simp only [hmap, hmap']
    rfl
  have hdress : f.asOptional.dress set = f.dress set := by
    by_cases hsingle : f.isNullable = f.asOptional.isNullable
    · unfold Field.dress Field.singleSchema
      rw [← hsingle]
      rfl
    -- what takes null with presence is a list, which takes none, or has a well-known type
    have hrequired : f.cardinality ≠ .required := by
      intro hc
      simp [Field.isNullable, Field.asOptional, hc] at hsingle
    funext schema
    cases hc : f.cardinality with
    | map => exact absurd hc hmap
    | required => exact absurd hc hrequired
    | repeated =>
      have hlist : f.isList = true := decide_eq_true hc
      have hlist' : f.asOptional.isList = true := hlist
      rw [Field.dress, Field.dress, if_pos hlist, if_pos hlist']
      rfl
    | singular =>
      have special : f.wellKnown?.isSome = true :=
        Option.isSome_iff_ne_none.2 (h.resolve_left (not_not_intro hc))
      have special' : f.asOptional.wellKnown?.isSome = true := special
      unfold Field.dress
      rw [if_pos special, if_pos special']
      rfl
  have hmap' : f.asOptional.cardinality ≠ .map := hmap
  rw [expandField_of_not_map hmap, expandField_of_not_map hmap', expandValue_asOptional, hdress]

/-- One value takes null with presence. -/
theorem expandField_asOptional (hc : f.cardinality = .singular) (special : f.wellKnown? = none)
    (hp : f.presence = false) :
    set.expandField inside f.asOptional = (set.expandField inside f).map orNull := by
  have hplain : f.isNullable = false := by rw [Field.isNullable, hp, Bool.false_and]
  have hnull : f.asOptional.isNullable = true := by
    rw [Field.isNullable]
    simp [Field.asOptional, hc]
  have hdress : ∀ schema, f.asOptional.dress set schema = (f.dress set schema).orNull := by
    intro schema
    have hlist : f.isList = false := by simp [Field.isList, hc]
    have hlist' : f.asOptional.isList = false := hlist
    have special' : f.asOptional.wellKnown? = none := special
    simp only [Field.dress, hlist, hlist', special, special', Field.singleSchema, hplain, hnull]
    rfl
  have hmap : f.cardinality ≠ .map := by rw [hc]; decide
  have hmap' : f.asOptional.cardinality ≠ .map := hmap
  rw [expandField_of_not_map hmap, expandField_of_not_map hmap', expandValue_asOptional]
  cases set.expandValue inside f with
  | error cause => rfl
  | ok value => simp only [Except.map, hdress]

theorem oneType_expandField {schema : Json} (hc : f.cardinality = .singular)
    (special : f.wellKnown? = none) (hp : f.presence = false)
    (h : set.expandField inside f = .ok schema) : schema.OneType := by
  have hnull : f.isNullable = false := by rw [Field.isNullable, hp, Bool.false_and]
  rw [expandField_of_single (by simp [hc]) (by simp [hc]) special] at h
  cases hvalue : set.expandValue inside f with
  | error cause => rw [hvalue] at h; cases h
  | ok value =>
    rw [hvalue] at h
    obtain rfl := Except.ok.inj h
    exact Field.oneType_singleSchema hnull (oneType_expandValue special hvalue)

theorem fieldOffence?_asOptional (message : String) (f : Field) :
    set.fieldOffence? message f.asOptional = set.fieldOffence? message f := by
  cases f
  simp only [fieldOffence?, Field.asOptional]

end DescriptorSet

/-! ## A message with such a field -/

/-- The document of a message changes in one property if the last field of its JSON name has
another schema. -/
theorem MessageType.shell_replaced {m : MessageType} {before after : List Field} {f : Field}
    {first rest : List Json} (hsplit : m.fields = before ++ f :: after)
    (hlast : ∀ g ∈ after, g.jsonName ≠ f.jsonName) (hlength : before.length = first.length)
    (schema other : Json) :
    ∃ properties, (m.shell (first ++ schema :: rest)).get? "properties" = some (.obj properties) ∧
      Members.get? f.jsonName properties = some schema ∧
      m.shell (first ++ other :: rest) = (m.shell (first ++ schema :: rest)).put "properties"
        (.obj (Members.put f.jsonName other properties)) := by
  have hafter : f.jsonName ∉ ((after.map (·.jsonName)).zip rest).map Prod.fst :=
    jsonName_not_mem_zip hlast
  have hproperties : Members.putAll [] ((m.fields.map (·.jsonName)).zip (first ++ other :: rest)) =
      Members.put f.jsonName other
        (Members.putAll [] ((m.fields.map (·.jsonName)).zip (first ++ schema :: rest))) := by
    rw [zip_jsonNames hsplit hlength, zip_jsonNames hsplit hlength, Members.putAll_append,
      Members.putAll_append, Members.putAll_cons, Members.putAll_cons,
      Members.put_putAll (Members.mem_keys_put.2 (.inl rfl)) hafter, Members.put_put]
  refine ⟨_, rfl, ?_, ?_⟩
  · rw [zip_jsonNames hsplit hlength]
    exact Members.get?_putAll_last hafter
  · rw [shell, hproperties]
    rfl

namespace Pool

open DescriptorSet

variable (pool : Pool) (m : pool.set.Message) {before after : List Field} {f : Field}

/-- The pool in which a field of a message has presence. -/
def withOptional (hsplit : m.val.fields = before ++ f :: after) : Pool where
  set := pool.set.refield m.val.fullName (before ++ f.asOptional :: after)
  sound := by
    refine pool.offence?_refield_of_sound m fun g hg => ?_
    rcases List.mem_append.1 hg with hbefore | hafter
    · exact pool.fieldOffence?_of_mem m (hsplit ▸ List.mem_append_left _ hbefore)
    rcases List.mem_cons.1 hafter with rfl | hafter
    · rw [fieldOffence?_asOptional]
      exact pool.fieldOffence?_of_mem m (hsplit ▸ List.mem_append_cons_self)
    · exact pool.fieldOffence?_of_mem m
        (hsplit ▸ List.mem_append_right _ (List.mem_cons_of_mem _ hafter))

/-- The message in which a field has presence. -/
def optional (hsplit : m.val.fields = before ++ f :: after) :
    (pool.withOptional m hsplit).set.Message :=
  ⟨{ m.val with fields := before ++ f.asOptional :: after },
    MessageType.refield_of_eq (n := m.val) rfl ▸ mem_refield m.property⟩

variable (hsplit : m.val.fields = before ++ f :: after)

/-- Inside the message every field is expanded as before. -/
theorem expandField_withOptional (g : Field) :
    (pool.withOptional m hsplit).set.expandField [m.val.fullName] g =
      pool.set.expandField [m.val.fullName] g :=
  (expandField_refield (fun n => expandMessage_refield _ n List.mem_cons_self) g).symm

/-- The message is written out as before from the schemas of its fields. -/
theorem shell_optional : (pool.optional m hsplit).val.shell = m.val.shell := by
  refine MessageType.shell_eq_of_namedAlike rfl ?_
  show List.Forall₂ Field.NamedAlike m.val.fields (before ++ f.asOptional :: after)
  rw [hsplit]
  exact List.rel_append (List.forall₂_same.2 fun g _ => .refl g)
    (.cons ⟨rfl, rfl⟩ (List.forall₂_same.2 fun g _ => .refl g))

/-- The document of the message with presence for a field, from the schema that the field has with
presence. -/
theorem schemaOf_optional {document : Json} (h : pool.schemaOf m = .ok document) :
    ∃ first schema rest, document = m.val.shell (first ++ schema :: rest) ∧
      before.length = first.length ∧
      pool.set.expandField [m.val.fullName] f = .ok schema ∧
      ∀ other, pool.set.expandField [m.val.fullName] f.asOptional = .ok other →
        (pool.withOptional m hsplit).schemaOf (pool.optional m hsplit) =
          .ok (m.val.shell (first ++ other :: rest)) := by
  obtain ⟨schemas, hschemas, rfl⟩ := (expandMessage_eq_ok_iff List.not_mem_nil).1 h
  rw [hsplit] at hschemas
  obtain ⟨first, schema, rest, rfl, hfirst, hf, hrest⟩ := forall₂_split hschemas
  refine ⟨first, schema, rest, rfl, hfirst.length_eq, hf, fun other hother => ?_⟩
  refine (expandMessage_eq_ok_iff List.not_mem_nil).2
    ⟨_, ?_, (congrFun (pool.shell_optional m hsplit) _).symm⟩
  have hkept : ∀ {fields : List Field} {schemas : List Json},
      List.Forall₂ (fun g schema => pool.set.expandField [m.val.fullName] g = .ok schema)
        fields schemas →
      List.Forall₂ (fun g schema => (pool.withOptional m hsplit).set.expandField
        [m.val.fullName] g = .ok schema) fields schemas := by
    intro fields schemas hall
    refine hall.imp fun g schema hg => ?_
    rwa [expandField_withOptional]
  exact List.rel_append (hkept hfirst) (hkept (.cons hother hrest))

/-- **Presence adds null to the property of one field and changes nothing else.** The set stays a
pool, and the message keeps a schema. The document is the same if the field is a list or a map, must
be there or has a well-known type. Otherwise it is the same but for the property of the field, where
null is allowed beside the one type, and in a last branch where there are branches. -/
theorem presence_adds_null {document : Json} (hpresence : f.presence = false)
    (hlast : ∀ g ∈ after, g.jsonName ≠ f.jsonName) (h : pool.schemaOf m = .ok document) :
    Pool.ofSet (pool.set.refield m.val.fullName (before ++ f.asOptional :: after)) =
      .ok (pool.withOptional m hsplit) ∧
    ∃ changed, (pool.withOptional m hsplit).schemaOf (pool.optional m hsplit) = .ok changed ∧
      (f.cardinality ≠ .singular ∨ f.wellKnown? ≠ none → changed = document) ∧
      (f.cardinality = .singular → f.wellKnown? = none → ∃ properties schema other,
        document.get? "properties" = some (.obj properties) ∧
        Members.get? f.jsonName properties = some schema ∧ NullAdded schema other ∧
        changed = document.put "properties" (.obj (Members.put f.jsonName other properties))) := by
  obtain ⟨first, schema, rest, rfl, hlength, hf, hchanged⟩ := pool.schemaOf_optional m hsplit h
  refine ⟨(pool.withOptional m hsplit).ofSet_set, ?_⟩
  by_cases hkept : f.cardinality ≠ .singular ∨ f.wellKnown? ≠ none
  · refine ⟨_, hchanged schema ((expandField_asOptional_of_kept hkept).trans hf), fun _ => rfl, ?_⟩
    intro hc special
    rcases hkept with hkept | hkept
    · exact absurd hc hkept
    · exact absurd special hkept
  obtain ⟨hc, special⟩ := not_or.1 hkept
  rw [not_ne_iff] at hc special
  have hnull : pool.set.expandField [m.val.fullName] f.asOptional = .ok schema.orNull := by
    rw [expandField_asOptional hc special hpresence, hf]
    rfl
  refine ⟨_, hchanged _ hnull, fun h => absurd h hkept, fun _ _ => ?_⟩
  obtain ⟨properties, hproperties, hschema, heq⟩ :=
    MessageType.shell_replaced hsplit hlast hlength schema schema.orNull
  have hwithout := (oneType_expandField hc special hpresence hf).withoutNull
  exact ⟨properties, schema, _, hproperties, hschema, hwithout.nullAdded_orNull, heq⟩

/-- A level with a description, a number or one of three strings. -/
def level : Field where
  name := "level"
  kind := .float
  annotations := some { description := some "In metres." }

/-- The gauge that was read before. -/
def previous : Field := .ofType "previous" .message ".river.Gauge"

def gaugeType : MessageType where
  declaredName := "river.Gauge"
  fields := [level, previous]

/-- A pool in which a message stands in its own schema. -/
def river : Pool where
  set := { messages := [gaugeType] }
  sound := by decide

def gauge : river.set.Message := ⟨gaugeType, .head _⟩

theorem gauge_fields : gauge.val.fields = [] ++ level :: [previous] := rfl

/-- Null is added to a number and the strings that stand for numbers. -/
theorem gauge_presence : ∃ document changed properties schema other,
    river.schemaOf gauge = .ok document ∧ level.presence = false ∧ level.cardinality = .singular ∧
    (river.withOptional gauge gauge_fields).schemaOf (river.optional gauge gauge_fields) =
      .ok changed ∧
    document.get? "properties" = some (.obj properties) ∧
    Members.get? "level" properties = some schema ∧ NullAdded schema other ∧
    changed = document.put "properties" (.obj (Members.put "level" other properties)) := by
  obtain ⟨document, hdocument⟩ := river.exists_schemaOf gauge (by decide)
  have hlast : ∀ g ∈ [previous], g.jsonName ≠ level.jsonName := by decide
  obtain ⟨-, changed, hchanged, -, hadded⟩ :=
    river.presence_adds_null gauge gauge_fields rfl hlast hdocument
  obtain ⟨properties, schema, other, hproperties, hschema, hnull, heq⟩ := hadded rfl rfl
  exact ⟨document, changed, properties, schema, other, hdocument, rfl, rfl, hchanged, hproperties,
    hschema, hnull, heq⟩

end Pool

end MessageSchema
