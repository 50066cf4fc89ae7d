import MessageSchema.Proofs.Unfolding

/-!
# Expansions side by side

Two expansions, in two sets or inside two lists of messages, give the same schema when what they
look up does.

* In sets with the same enum types a field has the same schema if the messages that it refers to
  have the same expansion on both sides (`expandField_congr`).
* Fields that differ in nothing but the spelling of type names correspond when both sides find the
  same under these names: one well-known type, enum types with the same values, and messages that
  are related in turn (`Corresponds`). Where related messages have corresponding fields, they have
  the same expansion, with a schema or without one (`Simulates.expandMessage_eq`).
-/

namespace MessageSchema

namespace Field

/-- The field with another name for its type and other values. -/
def respell (f : Field) (typeName? : Option String) (mapValue : Option Field) : Field :=
  { f with typeName?, mapValue }

section Respell

variable (f : Field) (typeName? : Option String) (mapValue : Option Field)

theorem respell_self : f.respell f.typeName? f.mapValue = f := by
  cases f
  rfl

@[simp] theorem respell_name : (f.respell typeName? mapValue).name = f.name := rfl

@[simp] theorem respell_jsonName : (f.respell typeName? mapValue).jsonName = f.jsonName := rfl

@[simp] theorem respell_kind : (f.respell typeName? mapValue).kind = f.kind := rfl

@[simp] theorem respell_typeName? : (f.respell typeName? mapValue).typeName? = typeName? := rfl

@[simp] theorem respell_mapValue : (f.respell typeName? mapValue).mapValue = mapValue := rfl

@[simp] theorem respell_isList : (f.respell typeName? mapValue).isList = f.isList := rfl

@[simp] theorem respell_isNullable : (f.respell typeName? mapValue).isNullable = f.isNullable := rfl

@[simp] theorem respell_description :
    (f.respell typeName? mapValue).description = f.description := rfl

@[simp] theorem respell_rules : (f.respell typeName? mapValue).rules = f.rules := rfl

@[simp] theorem respell_repeatedRules :
    (f.respell typeName? mapValue).repeatedRules = f.repeatedRules := rfl

@[simp] theorem respell_mapRules : (f.respell typeName? mapValue).mapRules = f.mapRules := rfl

end Respell

end Field

/-! ## What is read of an enum type -/

section EnumValues

variable {enum other : Option EnumType}

theorem EnumRules.keywords_congr (rules : EnumRules) {e d : EnumType} (h : e.values = d.values) :
    rules.keywords e = rules.keywords d := by
  have hname : e.nameOf? = d.nameOf? := by
    funext number
    unfold EnumType.nameOf?
    rw [h]
  unfold EnumRules.keywords
  rw [hname]

/-- Only rules for enum values read an enum type, and of it only the values. -/
theorem FieldRules.keywords_congr (rules : FieldRules) {kind : Kind}
    (h : kind = .enum → rules.enum ≠ none → enum.map (·.values) = other.map (·.values)) :
    rules.keywords kind enum = rules.keywords kind other := by
  cases kind with
  | enum =>
    simp only [keywords]
    cases stated : rules.enum with
    | none => rfl
    | some own =>
      have hvalues := h rfl (stated ▸ Option.some_ne_none own)
      cases enum with
      | none =>
        cases other with
        | none => rfl
        | some d => cases hvalues
      | some e =>
        cases other with
        | none => cases hvalues
        | some d => exact own.keywords_congr (Option.some.inj hvalues)
  | _ => rfl

theorem Kind.fragment_congr {kind : Kind}
    (h : kind = .enum → enum.map (·.values) = other.map (·.values)) :
    kind.fragment enum = kind.fragment other := by
  cases kind with
  | enum =>
    have hnames : enum.map (·.values.map (·.name)) = other.map (·.values.map (·.name)) := by
      have hvalues := congrArg (Option.map (List.map EnumValue.name)) (h rfl)
      rwa [Option.map_map, Option.map_map] at hvalues
    simp only [fragment, Fragment.enumeration, hnames]
  | _ => rfl

theorem Json.withRules_congr (rules : FieldRules) {kind : Kind} (schema : Json)
    (h : kind = .enum → rules.enum ≠ none → enum.map (·.values) = other.map (·.values)) :
    schema.withRules rules kind enum = schema.withRules rules kind other := by
  unfold withRules
  rw [rules.keywords_congr h]

end EnumValues

namespace DescriptorSet

variable {set other : DescriptorSet} {inside around : List String}

/-! ## Around the schema of a value -/

/-- What two fields name as their types has the same form on both sides, as far as it is no message
of the set: it is one well-known type, or enum types with the same values. -/
structure SameForm (set other : DescriptorSet) (f g : Field) : Prop where
  special : g.wellKnown? = f.wellKnown?
  values : f.kind = .enum →
    (other.enumOf? g).map (·.values) = (set.enumOf? f).map (·.values)

section SameForm

variable {f value : Field} {typeName? innerName? : Option String}
  {mapValue innerValue : Option Field}

theorem SameForm.withRules_eq (h : set.SameForm other f (f.respell typeName? mapValue))
    (rules : FieldRules) (schema : Json) :
    schema.withRules rules f.kind (other.enumOf? (f.respell typeName? mapValue)) =
      schema.withRules rules f.kind (set.enumOf? f) :=
  Json.withRules_congr rules schema fun hk _ => h.values hk

theorem SameForm.dress_eq (h : set.SameForm other f (f.respell typeName? mapValue)) :
    (f.respell typeName? mapValue).dress other = f.dress set := by
  funext schema
  unfold Field.dress Field.listSchema Field.singleSchema
  simp only [Field.respell_isList, Field.respell_repeatedRules, Field.respell_description,
    Field.respell_rules, Field.respell_isNullable, Field.respell_kind, h.special, h.withRules_eq]

/-- Around values of one well-known type there is the same map, if rules for enum values find the
same values. -/
theorem mapSchema_respell
    (special : (value.respell innerName? innerValue).wellKnown? = value.wellKnown?)
    (hvalues : value.kind = .enum → (f.mapRules.bind (·.values)).bind (·.enum) ≠ none →
      (other.enumOf? (value.respell innerName? innerValue)).map (·.values) =
        (set.enumOf? value).map (·.values)) :
    (f.respell typeName? mapValue).mapSchema other (value.respell innerName? innerValue) =
      f.mapSchema set value := by
  funext schema
  unfold Field.mapSchema
  simp only [Field.respell_mapRules, Field.respell_description, Field.respell_kind, special]
  cases value.wellKnown? with
  | some type => rfl
  | none =>
    cases stated : f.mapRules.bind (·.values) with
    | none => rfl
    | some rules =>
      rw [stated, Option.bind_some] at hvalues
      simp only [Json.withRules_congr rules schema hvalues]

theorem SameForm.mapSchema_eq
    (h : set.SameForm other value (value.respell innerName? innerValue)) :
    (f.respell typeName? mapValue).mapSchema other (value.respell innerName? innerValue) =
      f.mapSchema set value :=
  mapSchema_respell h.special fun hk _ => h.values hk

/-- A field puts the same map around its values if its rules for them find the same enum values. -/
theorem mapSchema_of_values
    (hvalues : value.kind = .enum → (f.mapRules.bind (·.values)).bind (·.enum) ≠ none →
      (other.enumOf? value).map (·.values) = (set.enumOf? value).map (·.values)) :
    f.mapSchema other value = f.mapSchema set value := by
  have heq : (f.respell f.typeName? f.mapValue).mapSchema other
      (value.respell value.typeName? value.mapValue) = f.mapSchema set value :=
    mapSchema_respell (by rw [value.respell_self]) (by rwa [value.respell_self])
  rwa [value.respell_self, f.respell_self] at heq

end SameForm

end DescriptorSet

/-! ## In the properties of a message -/

/-- The fields have one JSON name, and both must be there or none. -/
structure Field.NamedAlike (f g : Field) : Prop where
  jsonName : g.jsonName = f.jsonName
  isRequired : g.isRequired = f.isRequired

theorem Field.NamedAlike.refl (f : Field) : f.NamedAlike f := ⟨rfl, rfl⟩

theorem jsonNames_eq_of_namedAlike {fields others : List Field}
    (h : List.Forall₂ Field.NamedAlike fields others) :
    others.map (·.jsonName) = fields.map (·.jsonName) ∧
      (others.filter (·.isRequired)).map (·.jsonName) =
        (fields.filter (·.isRequired)).map (·.jsonName) := by
  induction h with
  | nil => exact ⟨rfl, rfl⟩
  | cons hfirst _ ih =>
    obtain ⟨hjson, hrequired⟩ := ih
    simp only [List.map_cons, List.filter_cons, hfirst.jsonName, hfirst.isRequired, hjson, true_and]
    split
    · simp only [List.map_cons, hfirst.jsonName, hrequired]
    · exact hrequired

/-- Messages of one name whose fields are named alike are written out alike. -/
theorem MessageType.shell_eq_of_namedAlike {m n : MessageType} (hname : n.fullName = m.fullName)
    (hfields : List.Forall₂ Field.NamedAlike m.fields n.fields) : n.shell = m.shell := by
  obtain ⟨hjson, hrequired⟩ := jsonNames_eq_of_namedAlike hfields
  funext schemas
  unfold MessageType.shell MessageType.name MessageType.requiredNames
  rw [hname, hjson, hrequired]

namespace DescriptorSet

variable {set other : DescriptorSet} {inside around : List String}

/-! ## In sets with the same enum types -/

theorem enumOf?_congr (h : set.enums = other.enums) (f : Field) :
    set.enumOf? f = other.enumOf? f := by
  unfold enumOf? enum?
  rw [h]

theorem mapSchema_congr (h : set.enums = other.enums) (f value : Field) :
    f.mapSchema set value = f.mapSchema other value :=
  mapSchema_of_values fun _ _ => by rw [enumOf?_congr h]

theorem dress_congr (h : set.enums = other.enums) (f : Field) : f.dress set = f.dress other := by
  have hform : other.SameForm set f (f.respell f.typeName? f.mapValue) := by
    rw [f.respell_self]
    exact ⟨rfl, fun _ => by rw [enumOf?_congr h]⟩
  have heq := hform.dress_eq
  rwa [f.respell_self] at heq

/-- The values of a field have the same schema if the message they are has the same expansion, or is
found on neither side. -/
theorem expandValue_congr {f : Field} (henums : set.enums = other.enums)
    (hfound : f.kind = .message → f.wellKnown? = none → ∀ m (hm : set.messageOf? f = some m),
      ∃ n, ∃ hn : other.messageOf? f = some n, set.expandMessage inside ⟨m, mem_of_messageOf? hm⟩ =
        other.expandMessage around ⟨n, mem_of_messageOf? hn⟩)
    (hmissing : f.kind = .message → f.wellKnown? = none → set.messageOf? f = none →
      other.messageOf? f = none) :
    set.expandValue inside f = other.expandValue around f := by
  by_cases hk : f.kind = .message
  · cases special : f.wellKnown? with
    | some type => rw [expandValue_of_wellKnown special, expandValue_of_wellKnown special]
    | none =>
      cases found : set.messageOf? f with
      | some m =>
        obtain ⟨n, hn, heq⟩ := hfound hk special m found
        rw [expandValue_of_found hk special found, expandValue_of_found hk special hn, heq]
      | none =>
        rw [expandValue_of_missing hk special found,
          expandValue_of_missing hk special (hmissing hk special found)]
  · rw [expandValue_of_kind hk, expandValue_of_kind hk, enumOf?_congr henums]

theorem expandField_congr (henums : set.enums = other.enums)
    (hvalue : ∀ g, set.expandValue inside g = other.expandValue around g) :
    ∀ f : Field, set.expandField inside f = other.expandField around f
  | { name, jsonName?, kind, cardinality, presence, typeName?, mapValue, annotations, rules } => by
    by_cases hc : cardinality = .map
    · subst hc
      cases mapValue with
      | none => rw [expandField, expandField]
      | some value =>
        rw [expandField, expandField]
        simp only [expandField_congr henums hvalue value, mapSchema_congr henums]
    · rw [expandField_of_not_map hc, expandField_of_not_map hc, hvalue, dress_congr henums]

/-! ## In sets whose messages are changed -/

/-- The set with its messages changed one by one. -/
def mapMessages (set : DescriptorSet) (change : MessageType → MessageType) : DescriptorSet :=
  { set with messages := set.messages.map change }

section MapMessages

variable {change : MessageType → MessageType}

theorem mem_mapMessages {m : MessageType} (h : m ∈ set.messages) :
    change m ∈ (set.mapMessages change).messages :=
  List.mem_map_of_mem h

variable (hname : ∀ m, (change m).fullName = m.fullName)

include hname

theorem message?_mapMessages (typeName : String) :
    (set.mapMessages change).message? typeName = (set.message? typeName).map change := by
  unfold message? mapMessages
  rw [List.find?_map]
  simp only [Function.comp_def, hname]

theorem messageOf?_mapMessages (f : Field) :
    (set.mapMessages change).messageOf? f = (set.messageOf? f).map change := by
  unfold messageOf?
  cases f.typeName with
  | none => rfl
  | some typeName => exact message?_mapMessages hname typeName

/-- A field is expanded as before if the messages are. -/
theorem expandField_mapMessages (h : ∀ m : set.Message, set.expandMessage inside m =
      (set.mapMessages change).expandMessage inside ⟨change m.val, mem_mapMessages m.property⟩)
    (f : Field) : set.expandField inside f = (set.mapMessages change).expandField inside f := by
  have henums : set.enums = (set.mapMessages change).enums := rfl
  refine expandField_congr henums (fun g => ?_) f
  refine expandValue_congr henums (fun _ _ m hm => ?_) fun _ _ hm => ?_
  · have hm' : (set.mapMessages change).messageOf? g = some (change m) := by
      rw [messageOf?_mapMessages hname, hm]
      rfl
    exact ⟨_, hm', h ⟨m, mem_of_messageOf? hm⟩⟩
  · rw [messageOf?_mapMessages hname, hm]
    rfl

theorem names_mapMessages : (set.mapMessages change).names = set.names := by
  unfold names mapMessages
  rw [List.map_map]
  simp only [Function.comp_def, hname]

theorem resolves_mapMessages (kind : Kind) (typeName : String) :
    (set.mapMessages change).resolves kind typeName = set.resolves kind typeName := by
  cases kind with
  | message =>
    show (_ || ((set.mapMessages change).message? typeName).isSome) = _
    rw [message?_mapMessages hname, Option.isSome_map]
    rfl
  | _ => rfl

theorem fieldOffence?_mapMessages (message : String) : ∀ f : Field,
    (set.mapMessages change).fieldOffence? message f = set.fieldOffence? message f
  | { name := own, jsonName?, kind, cardinality, presence, typeName?, mapValue, annotations,
      rules } => by
    have hreference : (set.mapMessages change).referenceOffence? message own kind typeName? =
        set.referenceOffence? message own kind typeName? := by
      unfold referenceOffence?
      simp only [resolves_mapMessages hname]
    unfold fieldOffence?
    rw [hreference]
    cases mapValue with
    | none => rfl
    | some value =>
      unfold mapValueOffence?
      rw [fieldOffence?_mapMessages message value]

end MapMessages

/-! ## Fields in order -/

theorem expandFields_forall₂ {owner : String} {fields others : List Field}
    (h : List.Forall₂ (fun f g => g.name = f.name ∧
      set.expandField inside f = other.expandField around g) fields others) :
    set.expandFields owner inside fields = other.expandFields owner around others := by
  induction h with
  | nil => rw [expandFields, expandFields]
  | cons hfirst _ ih =>
    obtain ⟨hname, hfield⟩ := hfirst
    rw [expandFields, expandFields, hname, hfield, ih]

theorem expandFields_congr {owner : String} {fields : List Field}
    (h : ∀ f ∈ fields, set.expandField inside f = other.expandField around f) :
    set.expandFields owner inside fields = other.expandFields owner around fields := by
  refine expandFields_forall₂ (List.forall₂_same.2 fun f hf => ?_)
  exact ⟨rfl, h f hf⟩

/-! ## In sets that simulate each other -/

/-- The fields are spelled differently at most, and what they refer to is the same on both sides:
a message that is related, or a type of the same form. Layers of maps put the same around it. -/
inductive Corresponds (set other : DescriptorSet) (related : MessageType → MessageType → Prop) :
    Field → Field → Prop
  | leaf {f : Field} {typeName? : Option String} {mapValue : Option Field}
      (single : f.cardinality ≠ .map) (form : set.SameForm other f (f.respell typeName? mapValue))
      (found : f.kind = .message → f.wellKnown? = none → ∃ m n, related m n ∧
        set.messageOf? f = some m ∧ other.messageOf? (f.respell typeName? mapValue) = some n) :
      Corresponds set other related f (f.respell typeName? mapValue)
  | map {f value : Field} {typeName? innerName? : Option String} {innerValue : Option Field}
      (layer : f.cardinality = .map) (values : f.mapValue = some value)
      (same : (f.respell typeName? (some (value.respell innerName? innerValue))).mapSchema other
        (value.respell innerName? innerValue) = f.mapSchema set value)
      (below : Corresponds set other related value (value.respell innerName? innerValue)) :
      Corresponds set other related f
        (f.respell typeName? (some (value.respell innerName? innerValue)))

/-- Related messages have one name, and corresponding fields. -/
structure Simulates (set other : DescriptorSet) (related : MessageType → MessageType → Prop) :
    Prop where
  fullName_eq : ∀ {m n}, related m n → n.fullName = m.fullName
  fields : ∀ {m n}, related m n → List.Forall₂ (set.Corresponds other related) m.fields n.fields

variable {related : MessageType → MessageType → Prop}

theorem Corresponds.exists_eq {f g : Field} (h : set.Corresponds other related f g) :
    ∃ typeName? mapValue, g = f.respell typeName? mapValue := by
  cases h with
  | leaf => exact ⟨_, _, rfl⟩
  | map => exact ⟨_, _, rfl⟩

theorem Corresponds.leaf_self {f : Field} (single : f.cardinality ≠ .map)
    (form : set.SameForm other f f)
    (found : f.kind = .message → f.wellKnown? = none → ∃ m n, related m n ∧
      set.messageOf? f = some m ∧ other.messageOf? f = some n) :
    set.Corresponds other related f f := by
  have h : set.Corresponds other related f (f.respell f.typeName? f.mapValue) :=
    .leaf single (by rwa [f.respell_self]) (by rwa [f.respell_self])
  rwa [f.respell_self] at h

theorem Corresponds.map_self {f value : Field} (layer : f.cardinality = .map)
    (values : f.mapValue = some value) (same : f.mapSchema other value = f.mapSchema set value)
    (below : set.Corresponds other related value value) : set.Corresponds other related f f := by
  have hf : f.respell f.typeName? (some (value.respell value.typeName? value.mapValue)) = f := by
    rw [value.respell_self, ← values, f.respell_self]
  have h : set.Corresponds other related f
      (f.respell f.typeName? (some (value.respell value.typeName? value.mapValue))) :=
    .map layer values (by rwa [hf, value.respell_self]) (by rwa [value.respell_self])
  rwa [hf] at h

/-- Corresponding fields have the same schema, or the same error, if related messages have. -/
theorem Corresponds.expandField_eq {f g : Field} (h : set.Corresponds other related f g)
    (hmessage : ∀ (m : set.Message) (n : other.Message), related m.val n.val →
      set.expandMessage inside m = other.expandMessage around n) :
    set.expandField inside f = other.expandField around g := by
  induction h with
  | @leaf f typeName? mapValue single form found =>
    have hvalue : set.expandValue inside f =
        other.expandValue around (f.respell typeName? mapValue) := by
      by_cases hk : f.kind = .message
      · have hk' : (f.respell typeName? mapValue).kind = .message := hk
        cases special : f.wellKnown? with
        | some type =>
          rw [expandValue_of_wellKnown special,
            expandValue_of_wellKnown (form.special.trans special)]
        | none =>
          obtain ⟨m, n, hrelated, hm, hn⟩ := found hk special
          rw [expandValue_of_found hk special hm,
            expandValue_of_found hk' (form.special.trans special) hn]
          exact hmessage ⟨m, mem_of_messageOf? hm⟩ ⟨n, mem_of_messageOf? hn⟩ hrelated
      · have hk' : (f.respell typeName? mapValue).kind ≠ .message := hk
        rw [expandValue_of_kind hk, expandValue_of_kind hk', Field.respell_kind]
        exact (Kind.fragment_congr form.values).symm
    have single' : (f.respell typeName? mapValue).cardinality ≠ .map := single
    rw [expandField_of_not_map single, expandField_of_not_map single', hvalue, form.dress_eq]
  | @map f value typeName? innerName? innerValue layer values same _ ih =>
    have layer' : (f.respell typeName? (some (value.respell innerName? innerValue))).cardinality =
        .map := layer
    rw [expandField_of_map layer values, expandField_of_map layer' rfl, ih, same]

theorem Corresponds.namedAlike {f g : Field} (h : set.Corresponds other related f g) :
    f.NamedAlike g := by
  obtain ⟨typeName?, mapValue, rfl⟩ := h.exists_eq
  exact ⟨rfl, rfl⟩

/-- Related messages have the same expansion inside any messages. -/
theorem Simulates.expandMessage_eq (h : set.Simulates other related) (inside : List String)
    (m : set.Message) : ∀ n : other.Message, related m.val n.val →
      set.expandMessage inside m = other.expandMessage inside n := by
  induction inside, m using expansion_induction with
  | step inside m ih =>
    intro n hrelated
    have hname := h.fullName_eq hrelated
    by_cases hm : m.val.fullName ∈ inside
    · rw [expandMessage_of_mem hm, expandMessage_of_mem (hname ▸ hm)]
    have hfields : List.Forall₂ (fun f g => g.name = f.name ∧
        set.expandField (m.val.fullName :: inside) f =
          other.expandField (m.val.fullName :: inside) g) m.val.fields n.val.fields := by
      refine (h.fields hrelated).imp fun f g hfg => ?_
      obtain ⟨typeName?, mapValue, rfl⟩ := hfg.exists_eq
      exact ⟨rfl, hfg.expandField_eq fun k l hkl => ih hm k l hkl⟩
    rw [expandMessage_of_not_mem hm, expandMessage_of_not_mem fun hin => hm (hname ▸ hin), hname,
      expandFields_forall₂ hfields,
      MessageType.shell_eq_of_namedAlike hname ((h.fields hrelated).imp fun _ _ => (·.namedAlike))]

end DescriptorSet

end MessageSchema
