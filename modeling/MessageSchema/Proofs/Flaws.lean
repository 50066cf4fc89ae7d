import MessageSchema.Descriptor.Construction
import MessageSchema.Proofs.DescriptorTexts
import MessageSchema.Proofs.RuleFaults
import MessageSchema.Proofs.Walk

/-!
# Every way in which a schema fails its check

A schema that is generated has a fault for one of four reasons: among the messages that can be
reached there is a field named as a reference, a name that is required twice, a pattern that is no
regular expression, or a bound that is infinite or no number (`MessageType.Flaw`). Whatever fields,
layers of maps and lists, presence and descriptions add keeps the schemas inside free of other
faults (`hasOnly_assemble`), and so by induction over the expansion does a message
(`hasOnly_expandMessage`, `flaw_of_fault`). It does not matter which texts are regular expressions,
as long as those are that the generator writes itself (`PatternSyntax.TakesGenerated`).
-/

namespace MessageSchema

open Json PatternSyntax

/-! ## Flaws -/

/-- The rules that are put into the schema of a field, each set with the kind of the values that it
is for. -/
inductive Field.Ruled : Field → Kind → FieldRules → Prop
  | own {f : Field} {rules : FieldRules} (single : f.isList = false) (layer : f.isMap = false)
      (h : f.rules = some rules) : Ruled f f.kind rules
  | items {f : Field} {rules : FieldRules} (list : f.isList = true)
      (h : f.repeatedRules.bind (·.items) = some rules) : Ruled f f.kind rules
  | values {f value : Field} {rules : FieldRules} (layer : f.isMap = true)
      (hv : f.mapValue = some value) (h : f.mapRules.bind (·.values) = some rules) :
      Ruled f value.kind rules
  | inner {f value : Field} {kind : Kind} {rules : FieldRules} (layer : f.isMap = true)
      (hv : f.mapValue = some value) (h : Ruled value kind rules) : Ruled f kind rules

section Syntax

variable [PatternSyntax]

/-- What in a message makes its schema invalid, and the fault that comes of it. -/
inductive MessageType.Flaw (m : MessageType) : Fault → Prop
  | reference {f : Field} (hf : f ∈ m.fields) (h : f.jsonName = "$ref") : Flaw m .reference
  | repeatedName (h : ¬ m.requiredNames.Nodup) : Flaw m (.notUnique (.strings m.requiredNames))
  | rule {f : Field} {kind : Kind} {rules : FieldRules} {fault : Fault} (hf : f ∈ m.fields)
      (hr : f.Ruled kind rules) (h : rules.Flaw kind fault) : Flaw m fault

variable {Q : Fault → Prop}

/-! ## Schemas of single values -/

theorem keywordHasOnly_type {type : String} (h : type ∈ typeNames := by decide) :
    KeywordHasOnly Q "type" (.str type) := by
  refine .of_harmless rfl ?_
  show (if type ∈ typeNames then none else _) = none
  rw [if_pos h]

theorem hasOnly_typed {type : String} {more : Members} (h : more.HasOnly Q)
    (htype : type ∈ typeNames := by decide) : (Fragment.typed type more).HasOnly Q :=
  ⟨_, rfl, .cons (keywordHasOnly_type htype) h⟩

theorem WellKnown.hasOnly_schema (takes : TakesGenerated) (type : WellKnown) :
    type.schema.HasOnly Q := by
  have hpattern : ∀ text ∈ [Fragment.decimalPattern, durationPattern, pathsPattern],
      Members.HasOnly Q [("pattern", .str text)] := fun text hin =>
    .cons (keywordHasOnly_pattern (takes.fixed text hin)) .nil
  cases type with
  | int64Value | uint64Value =>
    refine ⟨_, rfl, .cons (keywordHasOnly_typeOrNull (by decide) (by decide)) ?_⟩
    exact hpattern _ (.head _)
  | duration => exact hasOnly_typed (hpattern _ (.tail _ (.head _)))
  | fieldMask => exact hasOnly_typed (hpattern _ (.tail _ (.tail _ (.head _))))
  | _ => exact .of_valid (by decide) rfl

theorem hasOnly_enumeration (enum : Option EnumType) :
    (Fragment.enumeration enum).HasOnly Q ∧ (Fragment.enumeration enum).Typed := by
  unfold Fragment.enumeration
  split
  · exact ⟨hasOnly_typed .nil, .of_type rfl⟩
  · exact ⟨hasOnly_typed .nil, .of_type rfl⟩
  · refine ⟨hasOnly_typed (.cons ?_ .nil), .of_type rfl⟩
    exact .of_harmless (containsRef_strings _) rfl

theorem hasOnly_fragment (takes : TakesGenerated) {kind : Kind} {enum : Option EnumType}
    {schema : Json} (h : kind.fragment enum = .ok schema) : schema.HasOnly Q ∧ schema.Typed := by
  cases kind with
  | message | group => cases h
  | enum =>
    cases h
    exact hasOnly_enumeration enum
  | int64 | sint64 | sfixed64 | uint64 | fixed64 =>
    cases h
    refine ⟨hasOnly_typed (.cons ?_ .nil), .of_type rfl⟩
    exact keywordHasOnly_pattern (takes.fixed _ (.head _))
  | _ =>
    cases h
    exact ⟨.of_valid (by decide) rfl, .of_type rfl⟩

theorem hasOnly_bareObject : bareObject.HasOnly Q ∧ bareObject.Typed :=
  ⟨hasOnly_typed .nil, .of_type rfl⟩

/-! ## Fields -/

section Fields

open DescriptorSet

variable {set : DescriptorSet} {f : Field} {schema : Json}

theorem hasOnly_singleSchema (h : schema.HasOnly Q) (ht : schema.Typed)
    (hrules : ∀ rules, f.rules = some rules → ∀ enum, (rules.keywords f.kind enum).HasOnly Q) :
    (f.singleSchema set schema).HasOnly Q := by
  have htype : ∀ rules enum schema, (Json.withRules rules f.kind enum schema).get? "type" =
      schema.get? "type" := fun rules enum schema =>
    get?_withRules (by cases f.kind <;> decide)
  have hdescribed : (schema.withDescription f.description).HasOnly Q := h.withDescription
  have htyped : (schema.withDescription f.description).Typed :=
    ht.of_get? (get?_withDescription (by decide))
  unfold Field.singleSchema
  cases hr : f.rules with
  | none =>
    simp only [Option.elim_none]
    split
    · exact hdescribed.orNull htyped
    · exact hdescribed
  | some rules =>
    simp only [Option.elim_some]
    have hruled : ((schema.withDescription f.description).withRules rules f.kind
        (set.enumOf? f)).HasOnly Q := hdescribed.putAll (hrules rules hr _)
    split
    · exact hruled.orNull (htyped.of_get? (htype _ _ _))
    · exact hruled

/-- The items of a list take rules unless their type is well known. -/
theorem hasOnly_listSchema (h : schema.HasOnly Q)
    (hrules : ∀ rules, f.repeatedRules.bind (·.items) = some rules →
      ∀ enum, (rules.keywords f.kind enum).HasOnly Q) : (f.listSchema set schema).HasOnly Q := by
  have hlist : ∀ items : Json, items.HasOnly Q →
      (Json.obj [("type", .strings ["array", "null"]), ("items", items)]).HasOnly Q := by
    intro items hitems
    refine ⟨_, rfl, .cons ?_ (.cons (.of_schema hitems) .nil)⟩
    exact keywordHasOnly_typeOrNull (by decide) (by decide)
  unfold Field.listSchema
  refine (HasOnly.withDescription (hlist _ ?_)).putAll
    (hasOnly_elim fun own _ => own.hasOnly_keywords)
  split
  · next rules _ hitems => exact h.putAll (hrules rules hitems _)
  · exact h

theorem hasOnly_mapSchema {value : Field} (h : schema.HasOnly Q)
    (hrules : ∀ rules, f.mapRules.bind (·.values) = some rules →
      ∀ enum, (rules.keywords value.kind enum).HasOnly Q) :
    (f.mapSchema set value schema).HasOnly Q := by
  have hmap : ∀ values : Json, values.HasOnly Q →
      (Json.obj [("type", .str "object"), ("additionalProperties", values)]).HasOnly Q := by
    intro values hvalues
    refine ⟨_, rfl, .cons (keywordHasOnly_type) (.cons ?_ .nil)⟩
    exact .of_schema hvalues
  unfold Field.mapSchema
  refine (HasOnly.withDescription (hmap _ ?_)).putAll
    (hasOnly_elim fun own _ => own.hasOnly_keywords)
  split
  · next rules _ hvalues => exact h.putAll (hrules rules hvalues _)
  · exact h

/-- A field adds no faults to the schema of its values but those of its rules. -/
theorem hasOnly_assemble (hf : set.WellFormed f) (h : schema.HasOnly Q)
    (ht : f.leaf.wellKnown? = none → schema.Typed)
    (hrules : ∀ kind rules, f.Ruled kind rules → ∀ enum, (rules.keywords kind enum).HasOnly Q) :
    (f.assemble set schema).HasOnly Q := by
  induction hf with
  | @map f value _ layer values _ ih =>
    have hmap : f.isMap = true := decide_eq_true layer
    rw [Field.leaf_of_map layer values] at ht
    rw [Field.assemble_of_map layer values]
    refine hasOnly_mapSchema (ih ht fun kind rules hr => ?_) fun rules hr => ?_
    · exact hrules kind rules (.inner hmap values hr)
    · exact hrules _ rules (.values hmap values hr)
  | @leaf f _ single _ =>
    have hmap : f.isMap = false := decide_eq_false single
    rw [Field.leaf_of_not_map single] at ht
    rw [Field.assemble_of_not_map single, Field.dress]
    cases hl : f.isList with
    | true =>
      rw [if_pos rfl]
      exact hasOnly_listSchema h fun rules hr => hrules _ rules (.items hl hr)
    | false =>
      rw [if_neg Bool.false_ne_true]
      cases special : f.wellKnown? with
      | some type => exact h
      | none => exact hasOnly_singleSchema h (ht special) fun rules hr =>
          hrules _ rules (.own hl hmap hr)

/-- A field has no faults but those of its rules and of the message that it refers to. -/
theorem hasOnly_expandField (takes : TakesGenerated) {inside : List String} (hf : set.WellFormed f)
    (hmessage : ∀ n (refers : set.RefersTo f n) value,
      set.expandMessage inside ⟨n, refers.mem⟩ = .ok value → value.HasOnly Q ∧ value.Typed)
    (hrules : ∀ kind rules, f.Ruled kind rules → ∀ enum, (rules.keywords kind enum).HasOnly Q)
    (h : set.expandField inside f = .ok schema) : schema.HasOnly Q := by
  obtain ⟨value, rfl, ⟨type, special, rfl⟩ | ⟨n, refers, hn⟩ | hfragment⟩ :=
    exists_value_of_expandField hf h
  · refine hasOnly_assemble hf (type.hasOnly_schema takes) (fun hnone => ?_) hrules
    rw [special] at hnone
    cases hnone
  · obtain ⟨hhas, htyped⟩ := hmessage n refers value hn
    exact hasOnly_assemble hf hhas (fun _ => htyped) hrules
  · obtain ⟨hhas, htyped⟩ := hasOnly_fragment takes hfragment
    exact hasOnly_assemble hf hhas (fun _ => htyped) hrules

end Fields

/-! ## Messages -/

omit [PatternSyntax] in
theorem stringsFault?_strings (names : List String) : stringsFault? (.strings names) =
    if names.Nodup then none else some (.notUnique (.strings names)) := by
  have hnodup : (names.map Json.str).Nodup ↔ names.Nodup :=
    List.nodup_map_iff fun _ _ h => Json.str.inj h
  rw [Json.strings, stringsFault?]
  split
  · next item hfound =>
    obtain ⟨name, -, rfl⟩ := List.mem_map.1 (List.mem_of_find?_eq_some hfound)
    exact absurd (List.find?_some hfound) Bool.false_ne_true
  · simp only [hnodup]

/-- A message adds its own flaws to the faults of the schemas of its fields. -/
theorem MessageType.hasOnly_shell (m : MessageType) {schemas : List Json}
    (hm : ∀ fault, m.Flaw fault → Q fault)
    (h : List.Forall₂ (fun _ schema => schema.HasOnly Q) m.fields schemas) :
    (m.shell schemas).HasOnly Q := by
  have hproperties : ∀ entry ∈ Members.putAll [] ((m.fields.map (·.jsonName)).zip schemas),
      (∃ f ∈ m.fields, f.jsonName = entry.1) ∧ entry.2.HasOnly Q := by
    intro entry hin
    rcases Members.mem_putAll hin with hnone | hzip
    · cases hnone
    have hnames : List.Forall₂ (fun _ schema => schema.HasOnly Q) (m.fields.map (·.jsonName))
        schemas := List.forall₂_map_left_iff.2 h
    exact ⟨List.mem_map.1 (List.of_mem_zip hzip).1, List.forall₂_zip hnames hzip⟩
  refine ⟨_, rfl, .append (.cons ?_ (.cons ?_ (.cons ?_ (.cons ?_ (.cons ?_ .nil))))) ?_⟩
  · exact .of_harmless rfl rfl
  · exact .of_harmless rfl rfl
  · exact keywordHasOnly_type
  · refine .of_named (fun hin => ?_) fun entry hin => (hproperties entry hin).2
    obtain ⟨entry, hentry, hname⟩ := List.mem_map.1 hin
    obtain ⟨f, hf, hf'⟩ := (hproperties entry hentry).1
    exact hm _ (.reference hf (hf'.trans hname))
  · refine ⟨by decide, fun hr => ?_, fun fault hf => ?_⟩
    · cases hr
    · rw [keywordFault?_of_schema (by decide)] at hf
      cases hf
  · refine hasOnly_listed (.of_plain (containsRef_strings _) fun fault hf => ?_)
    replace hf : stringsFault? (.strings m.requiredNames) = some fault := hf
    rw [stringsFault?_strings] at hf
    split at hf
    · cases hf
    · next hrepeated =>
      cases hf
      exact hm _ (.repeatedName hrepeated)

/-- A field that is named as a reference makes its message one. -/
theorem MessageType.fault?_shell_of_reference (m : MessageType) {schemas : List Json}
    (hlength : m.fields.length = schemas.length) {f : Field} (hf : f ∈ m.fields)
    (hname : f.jsonName = "$ref") : (m.shell schemas).fault? = some .reference := by
  have hkeys : ((m.fields.map (·.jsonName)).zip schemas).map Prod.fst =
      m.fields.map (·.jsonName) := List.map_fst_zip (by rw [List.length_map, hlength])
  have hin : "$ref" ∈
      (Members.putAll [] ((m.fields.map (·.jsonName)).zip schemas)).map Prod.fst := by
    rw [Members.mem_keys_putAll, hkeys]
    exact .inr (hname ▸ List.mem_map_of_mem hf)
  obtain ⟨entry, hentry, hkey⟩ := List.mem_map.1 hin
  have hproperties : (Json.obj (Members.putAll []
      ((m.fields.map (·.jsonName)).zip schemas))).mentions "$ref" = true :=
    membersMention_iff.2 ⟨entry, hentry, .inl hkey⟩
  have hclosed : (m.shell schemas).containsRef = true := by
    refine membersMention_iff.2 ⟨("properties", _), ?_, .inr hproperties⟩
    exact List.mem_append_left _ (.tail _ (.tail _ (.tail _ (.head _))))
  rw [fault?, if_pos hclosed]

omit [PatternSyntax] in
theorem MessageType.keys_shell_subset (m : MessageType) {schemas : List Json} {members : Members}
    (h : m.shell schemas = .obj members) : members.map Prod.fst ⊆
      ["$schema", "title", "type", "properties", "additionalProperties", "required"] := by
  cases h
  refine keys_append_subset ?_ (keys_listed_subset (by decide))
  show ["$schema", "title", "type", "properties", "additionalProperties"] ⊆ _
  decide

theorem MessageType.fault?_shell_of_repeatedName (m : MessageType) (schemas : List Json)
    (h : ¬ m.requiredNames.Nodup) : (m.shell schemas).fault? ≠ none := by
  intro hnone
  -- a valid schema has valid keywords only, and `required` is not
  have husual : ∀ key ∈ ["$schema", "title", "type", "properties", "additionalProperties",
      "required"], key ∉ special := by decide
  obtain ⟨members, hmembers, hvalid⟩ : (m.shell schemas).HasOnly fun _ => False :=
    .of_valid (fun key hkey => husual key (m.keys_shell_subset rfl hkey)) hnone
  have hne : m.requiredNames ≠ [] := fun hnil => h (hnil ▸ List.nodup_nil)
  have hlisted : listed "required" (m.requiredNames.map .str) =
      [("required", .strings m.requiredNames)] := by
    rw [listed, if_neg (by simpa using hne)]
    rfl
  have hin : ("required", .strings m.requiredNames) ∈ members := by
    rw [← Json.obj.inj hmembers, hlisted]
    exact List.mem_append_right _ (.head _)
  have hplain : isPlain "required" = true := by decide
  refine (hvalid _ hin).sound (.notUnique (.strings m.requiredNames)) ?_
  rw [keywordFault?_of_plain hplain]
  show stringsFault? (.strings m.requiredNames) = _
  rw [stringsFault?_strings, if_neg h]

namespace Pool

open DescriptorSet

variable (pool : Pool)

/-- The faults that come of flaws in messages that `root` reaches. -/
def FaultBelow (root : MessageType) (fault : Fault) : Prop :=
  ∃ n, pool.set.Reaches root n ∧ n.Flaw fault

/-- Inside any messages, the expansion of a message that `root` reaches has no faults but those of
flaws below `root`. -/
theorem hasOnly_expandMessage (takes : TakesGenerated) (root : MessageType) (inside : List String)
    (m : pool.set.Message) : pool.set.Reaches root m.val →
      ∀ {schema}, pool.set.expandMessage inside m = .ok schema →
        schema.HasOnly (pool.FaultBelow root) ∧ schema.Typed := by
  induction inside, m using expansion_induction with
  | step inside m ih =>
    intro hreach schema hschema
    by_cases hm : m.val.fullName ∈ inside
    · rw [expandMessage_of_mem hm] at hschema
      cases hschema
      exact hasOnly_bareObject
    -- the fields add the flaws of `m`, and what they refer to is reached by one step more
    obtain ⟨schemas, hschemas, rfl⟩ := (expandMessage_eq_ok_iff hm).1 hschema
    have hflaw : ∀ fault, m.val.Flaw fault → pool.FaultBelow root fault := fun fault h =>
      ⟨m.val, hreach, h⟩
    refine ⟨m.val.hasOnly_shell hflaw ?_, .of_type rfl⟩
    have hfields := (List.forall₂_and_left _ _).2 ⟨fun f (hf : f ∈ m.val.fields) => hf, hschemas⟩
    refine hfields.imp fun f schema ⟨hf, hfield⟩ => ?_
    have hwf := pool.wellFormed m.property hf
    have hrules : ∀ kind rules, f.Ruled kind rules →
        ∀ enum, (rules.keywords kind enum).HasOnly (pool.FaultBelow root) :=
      fun kind rules hr enum => rules.hasOnly_keywords takes kind enum fun fault h =>
        hflaw fault (.rule hf hr h)
    refine hasOnly_expandField takes hwf (fun n refers _ hn => ?_) hrules hfield
    exact ih hm ⟨n, refers.mem⟩ (hreach.tail ⟨f, hf, refers⟩) hn

/-- **Every fault of a generated schema comes of a flaw in a message that can be reached**: a field
named as a reference, a name that is required twice, a pattern that is none, or a bound that is
infinite or no number. Without any there, the schema is valid. In the message itself the first two
are always found. -/
theorem flaw_of_fault (takes : TakesGenerated) {m : pool.set.Message} {schema : Json}
    (h : pool.schemaOf m = .ok schema) :
    (∀ fault, schema.fault? = some fault → ∃ n, pool.set.Reaches m.val n ∧ n.Flaw fault) ∧
    ((∃ f ∈ m.val.fields, f.jsonName = "$ref") → schema.fault? = some .reference) ∧
    (¬ m.val.requiredNames.Nodup → schema.fault? ≠ none) := by
  obtain ⟨hhas, -⟩ := pool.hasOnly_expandMessage takes m.val [] m .refl h
  obtain ⟨schemas, hschemas, rfl⟩ := (expandMessage_eq_ok_iff List.not_mem_nil).1 h
  refine ⟨fun fault hfault => hhas.fault hfault, ?_, ?_⟩
  · rintro ⟨f, hf, hname⟩
    exact m.val.fault?_shell_of_reference hschemas.length_eq hf hname
  · exact m.val.fault?_shell_of_repeatedName schemas

end Pool

end Syntax

/-! ## Pools with a flaw -/

/-- No pattern that the rules state is bad, and no bound is infinite. -/
structure FieldRules.Passable (rules : FieldRules) : Prop where
  patterns : ∀ own ∈ rules.string, ∀ text ∈ own.pattern, isPattern text = true
  floats : ∀ own ∈ rules.float, ∀ negative,
    some (.infinite negative) ∉ [own.greater, own.atLeast, own.less, own.atMost]
  doubles : ∀ own ∈ rules.double, ∀ negative,
    some (.infinite negative) ∉ [own.greater, own.atLeast, own.less, own.atMost]

namespace Pool

open DescriptorSet

/-- The fault of the schema of a message can be told from the walk. -/
theorem exists_schemaOf_with_fault {pool : Pool} {m : pool.set.Message} {fault : Fault}
    (h : ((pool.set.walkMessage m).run []).1.toOption.any
      (fun schema => decide (schema.fault? = some fault)) = true) :
    ∃ schema, pool.schemaOf m = .ok schema ∧ schema.fault? = some fault := by
  obtain ⟨schema, hschema, hfault⟩ := exists_schemaOf_with h
  exact ⟨schema, hschema, of_decide_eq_true hfault⟩

/-- The articles in a parcel, which are to match what is no pattern. -/
def articles : Field where
  name := "articles"
  kind := .string
  cardinality := .repeated
  rules := some { repeated := some { items := some { string := some { pattern := some "[" } } } }

def parcelType : MessageType where
  declaredName := "shop.Parcel"
  fields := [articles, .ofType "cart" .message "shop.Cart"]

def parcels : Field := .mapOf "parcels" (.ofType "parcel" .message ".shop.Parcel")

def cartType : MessageType where
  declaredName := "shop.Cart"
  fields := [parcels]

/-- A pool in which a message has a flaw further on, in a message that leads back to it. -/
def shop : Pool where
  set := { messages := [cartType, parcelType] }
  sound := by decide

def cart : shop.set.Message := ⟨cartType, .head _⟩

theorem shop_flaw_of_fault :
    ∃ schema, shop.schemaOf cart = .ok schema ∧ schema.fault? = some (.notPattern "[") ∧
      ∃ n, shop.set.Reaches cart.val n ∧ n.Flaw (.notPattern "[") := by
  obtain ⟨schema, hschema, hfault⟩ : ∃ schema, shop.schemaOf cart = .ok schema ∧
      schema.fault? = some (.notPattern "[") :=
    exists_schemaOf_with_fault (by decide +kernel)
  obtain ⟨hflaw, -⟩ := shop.flaw_of_fault takesGenerated hschema
  exact ⟨schema, hschema, hfault, hflaw _ hfault⟩

/-- What is to be at least what is no number. -/
def discount : Field :=
  .withRules (.plain "discount" .double) { double := some { atLeast := some .nan } }

def offerType : MessageType where
  declaredName := "shop.Offer"
  fields := [discount]

def offers : Pool where
  set := { messages := [offerType] }
  sound := by decide

def offer : offers.set.Message := ⟨offerType, .head _⟩

/-- Texts in a map, whose own description has a rule. -/
def labels : Field :=
  .mapOf "labels" (.withRules (.plain "label" .string) { string := some { pattern := some "[" } })

def rackType : MessageType where
  declaredName := "shop.Rack"
  fields := [labels]

def racks : Pool where
  set := { messages := [rackType] }
  sound := by decide

def rack : racks.set.Message := ⟨rackType, .head _⟩

theorem reaches_of_only {set : DescriptorSet} {m n : MessageType} (hset : set.messages = [m])
    (h : set.Reaches m n) : n = m :=
  List.mem_singleton.1 (hset ▸ mem_of_reaches (hset ▸ List.mem_singleton_self m) h)

/-- **Infinite bounds are not the only ones, and own rules are not the only ones.** A schema fails
its check for a bound that is no number, with no bad pattern and no infinite bound anywhere in the
rules of the fields below; another one fails for a rule of the values of a map, while all rules of
fields, of their items and for their values are good. -/
theorem fault_of_no_number_and_of_map_value :
    (∃ schema, offers.schemaOf offer = .ok schema ∧
      schema.fault? = some (.notOfType .null ["number"]) ∧
      ∀ n, offers.set.Reaches offer.val n →
        (∀ f ∈ n.fields, f.jsonName ≠ "$ref") ∧ n.requiredNames.Nodup ∧
        ∀ f ∈ n.fields, ∀ rules ∈ f.allRules, rules.Passable) ∧
    ∃ schema, racks.schemaOf rack = .ok schema ∧ schema.fault? = some (.notPattern "[") ∧
      ∀ n, racks.set.Reaches rack.val n →
        (∀ f ∈ n.fields, f.jsonName ≠ "$ref") ∧ n.requiredNames.Nodup ∧
        ∀ f ∈ n.fields, ∀ rules, f.rules = some rules ∨
          f.repeatedRules.bind (·.items) = some rules ∨
          f.mapRules.bind (·.values) = some rules → rules.Passable := by
  constructor
  · obtain ⟨schema, hschema, hfault⟩ : ∃ schema, offers.schemaOf offer = .ok schema ∧
        schema.fault? = some (.notOfType .null ["number"]) :=
      exists_schemaOf_with_fault (by decide +kernel)
    refine ⟨schema, hschema, hfault, fun n hreach => ?_⟩
    obtain rfl := reaches_of_only rfl hreach
    refine ⟨by decide, by decide, fun f hf rules hrules => ?_⟩
    obtain rfl := List.mem_singleton.1 hf
    obtain rfl := List.mem_singleton.1 hrules
    constructor <;> intro own hown
    · cases hown
    · cases hown
    · obtain rfl := Option.some.inj hown
      simp
  · obtain ⟨schema, hschema, hfault⟩ : ∃ schema, racks.schemaOf rack = .ok schema ∧
        schema.fault? = some (.notPattern "[") :=
      exists_schemaOf_with_fault (by decide +kernel)
    refine ⟨schema, hschema, hfault, fun n hreach => ?_⟩
    obtain rfl := reaches_of_only rfl hreach
    refine ⟨by decide, by decide, fun f hf rules hrules => ?_⟩
    obtain rfl := List.mem_singleton.1 hf
    rcases hrules with hrules | hrules | hrules <;> cases hrules

end Pool

end MessageSchema
