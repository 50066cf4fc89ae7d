import MessageSchema.Schema.Expansion
import Mathlib.Logic.Relation
import Mathlib.Data.List.Nodup

/-!
# What fields refer to

The *leaf* of a field describes one of its values, below all layers of maps (`Field.leaf`). A field
refers to a message when its leaf has kind message, is of no well-known type and finds that message
in the set (`RefersTo`); along such references one message reaches another (`Reaches`). A field is
faulty when its leaf has no schema at all (`Faulty`).

In a pool every field is well formed (`Pool.wellFormed`) and a full name belongs to one message
(`Pool.eq_of_fullName_eq`).
-/

namespace MessageSchema

/-! ## Leaves -/

namespace Field

/-- What describes one value of a field: the field itself, or for a map the leaf of its values. -/
def leaf : Field → Field
  | { cardinality := .map, mapValue := some value, .. } => value.leaf
  | f => f
termination_by structural f => f

theorem leaf_of_map {f value : Field} (hc : f.cardinality = .map) (hv : f.mapValue = some value) :
    f.leaf = value.leaf := by
  cases f
  simp only at hc hv
  subst hc hv
  rw [leaf]

theorem leaf_of_not_map {f : Field} (hc : f.cardinality ≠ .map) : f.leaf = f := by
  unfold leaf
  split
  · exact absurd rfl hc
  · rfl

/-- The layers of a field for maps, from the outermost inwards: a map with the description of its
values. -/
def layers : Field → List (Field × Field)
  | f@{ cardinality := .map, mapValue := some value, .. } => (f, value) :: value.layers
  | _ => []
termination_by structural f => f

/-- The names of types that are written in a field or in the descriptions of its values. -/
def typeNames (f : Field) : List String :=
  (f :: f.layers.map (·.2)).filterMap (·.typeName?)

theorem layers_of_map {f value : Field} (hc : f.cardinality = .map)
    (hv : f.mapValue = some value) : f.layers = (f, value) :: value.layers := by
  cases f
  simp only at hc hv
  subst hc hv
  rw [layers]

/-- The names in the description of the values are names in the field. -/
theorem mem_typeNames_of_map {f value : Field} (hc : f.cardinality = .map)
    (hv : f.mapValue = some value) {name : String} (h : name ∈ value.typeNames) :
    name ∈ f.typeNames := by
  obtain ⟨g, hg, hname⟩ := List.mem_filterMap.1 h
  refine List.mem_filterMap.2 ⟨g, List.mem_cons_of_mem _ ?_, hname⟩
  rwa [layers_of_map hc hv, List.map_cons]

/-- Only messages are of well-known types. -/
theorem wellKnown?_of_kind {f : Field} (hk : f.kind ≠ .message) : f.wellKnown? = none := by
  rw [wellKnown?, if_neg hk]

end Field

namespace DescriptorSet

variable {set : DescriptorSet}

/-! ## Well-formed fields -/

/-- A field has a name; a map field has values, and of these alone the rest is asked: a kind that
needs a type has the name of one that is there. -/
inductive WellFormed (set : DescriptorSet) : Field → Prop
  | map {f value : Field} (named : f.name ≠ "") (layer : f.cardinality = .map)
      (values : f.mapValue = some value) (below : WellFormed set value) : WellFormed set f
  | leaf {f : Field} (named : f.name ≠ "") (single : f.cardinality ≠ .map)
      (resolved : f.kind.isNamed = true →
        ∃ typeName, f.typeName? = some typeName ∧ set.resolves f.kind typeName = true) :
      WellFormed set f

theorem WellFormed.leaf_single {f : Field} (h : set.WellFormed f) : f.leaf.cardinality ≠ .map := by
  induction h with
  | map _ layer values _ ih => rwa [Field.leaf_of_map layer values]
  | leaf _ single _ => rwa [Field.leaf_of_not_map single]

/-- The leaf of a well-formed field has the name of a type if its kind needs one. -/
theorem WellFormed.leaf_resolved {f : Field} (h : set.WellFormed f)
    (hk : f.leaf.kind.isNamed = true) :
    ∃ typeName, f.leaf.typeName? = some typeName ∧
      set.resolves f.leaf.kind typeName = true := by
  induction h with
  | map _ layer values _ ih =>
    rw [Field.leaf_of_map layer values] at hk ⊢
    exact ih hk
  | leaf _ single resolved =>
    rw [Field.leaf_of_not_map single] at hk ⊢
    exact resolved hk

theorem wellFormed_map_iff {f : Field} (layer : f.cardinality = .map) :
    set.WellFormed f ↔ f.name ≠ "" ∧ ∃ value, f.mapValue = some value ∧ set.WellFormed value := by
  constructor
  · intro h
    cases h with
    | map named _ values below => exact ⟨named, _, values, below⟩
    | leaf _ single _ => exact absurd layer single
  · rintro ⟨named, value, values, below⟩
    exact .map named layer values below

theorem wellFormed_single_iff {f : Field} (single : f.cardinality ≠ .map) :
    set.WellFormed f ↔ f.name ≠ "" ∧ (f.kind.isNamed = true →
      ∃ typeName, f.typeName? = some typeName ∧ set.resolves f.kind typeName = true) := by
  constructor
  · intro h
    cases h with
    | map _ layer _ _ => exact absurd layer single
    | leaf named _ resolved => exact ⟨named, resolved⟩
  · rintro ⟨named, resolved⟩
    exact .leaf named single resolved

theorem resolved_of_referenceOffence? {message field : String} {kind : Kind}
    {typeName? : Option String} (h : set.referenceOffence? message field kind typeName? = none)
    (hk : kind.isNamed = true) :
    ∃ typeName, typeName? = some typeName ∧ set.resolves kind typeName = true := by
  unfold referenceOffence? at h
  rw [if_pos hk] at h
  cases typeName? with
  | none => cases h
  | some typeName =>
    by_cases hr : set.resolves kind typeName = true
    · exact ⟨typeName, rfl, hr⟩
    · simp only [hr, Bool.false_eq_true, if_false] at h
      cases h

/-- A field without offence is well formed. -/
theorem wellFormed_of_fieldOffence? {message : String} :
    ∀ {f : Field}, set.fieldOffence? message f = none → set.WellFormed f
  | { name, jsonName?, kind, cardinality, presence, typeName?, mapValue, annotations, rules },
    h => by
    unfold fieldOffence? at h
    by_cases hn : name = ""
    · rw [if_pos hn] at h
      cases h
    rw [if_neg hn] at h
    by_cases hc : cardinality = .map
    · rw [if_pos hc] at h
      cases mapValue with
      | none => cases h
      | some value => exact .map hn hc rfl (wellFormed_of_fieldOffence? h)
    · rw [if_neg hc] at h
      exact .leaf hn hc (resolved_of_referenceOffence? h)

/-- The fields without offence are the well-formed ones. -/
theorem fieldOffence?_eq_none_iff {message : String} {f : Field} :
    set.fieldOffence? message f = none ↔ set.WellFormed f := by
  refine ⟨wellFormed_of_fieldOffence?, fun h => ?_⟩
  induction h with
  | @map f value named layer values _ ih =>
    cases f
    simp only at named layer values
    subst layer values
    rw [fieldOffence?, if_neg named, if_pos rfl, mapValueOffence?]
    exact ih
  | @leaf f named single resolved =>
    cases f
    simp only at named single resolved
    rw [fieldOffence?, if_neg named, if_neg single]
    unfold referenceOffence?
    split
    · next hk =>
      obtain ⟨typeName, rfl, hr⟩ := resolved hk
      simp only [if_pos hr]
    · rfl

/-! ## References -/

/-- The message that the values of a field are. -/
def RefersTo (set : DescriptorSet) (f : Field) (m : MessageType) : Prop :=
  f.leaf.kind = .message ∧ f.leaf.wellKnown? = none ∧ set.messageOf? f.leaf = some m

/-- One message has a field whose values are the other. -/
def Step (set : DescriptorSet) (m n : MessageType) : Prop := ∃ f ∈ m.fields, set.RefersTo f n

/-- One message leads to another in any number of steps. -/
abbrev Reaches (set : DescriptorSet) : MessageType → MessageType → Prop :=
  Relation.ReflTransGen set.Step

theorem RefersTo.mem {f : Field} {m : MessageType} (h : set.RefersTo f m) : m ∈ set.messages :=
  mem_of_messageOf? h.2.2

theorem Step.mem {m n : MessageType} (h : set.Step m n) : n ∈ set.messages := by
  obtain ⟨f, -, hf⟩ := h
  exact hf.mem

theorem mem_of_reaches {m n : MessageType} (hm : m ∈ set.messages) (h : set.Reaches m n) :
    n ∈ set.messages := by
  rcases Relation.ReflTransGen.cases_tail h with rfl | ⟨_, _, hstep⟩
  · exact hm
  · exact hstep.mem

/-- The values of a field are a group, or a message that cannot be found. -/
def Faulty (set : DescriptorSet) (f : Field) : Prop :=
  f.leaf.kind = .group ∨
    f.leaf.kind = .message ∧ f.leaf.wellKnown? = none ∧ set.messageOf? f.leaf = none

/-- Why a field has no schema. -/
inductive Fault (set : DescriptorSet) (f : Field) : SchemaError → Prop
  | group (hk : f.leaf.kind = .group) : Fault set f (.unsupportedKind .group)
  | unresolved {typeName : String} (hk : f.leaf.kind = .message)
      (special : f.leaf.wellKnown? = none) (missing : set.messageOf? f.leaf = none)
      (named : f.leaf.typeName = some typeName) : Fault set f (.unresolvedType typeName)

theorem Fault.faulty {f : Field} {cause : SchemaError} (h : set.Fault f cause) : set.Faulty f := by
  cases h with
  | group hk => exact .inl hk
  | unresolved hk special missing _ => exact .inr ⟨hk, special, missing⟩

theorem WellFormed.exists_fault {f : Field} (hf : set.WellFormed f) (h : set.Faulty f) :
    ∃ cause, set.Fault f cause := by
  rcases h with hk | ⟨hk, special, missing⟩
  · exact ⟨_, .group hk⟩
  · obtain ⟨typeName, ht, -⟩ := hf.leaf_resolved (by rw [hk]; rfl)
    exact ⟨_, .unresolved hk special missing (by rw [Field.typeName, ht]; rfl)⟩

/-! ## Names of a pool -/

theorem fullName_of_message? {name : String} {m : MessageType} (h : set.message? name = some m) :
    m.fullName = plainName name := by
  unfold message? at h
  have hname := List.find?_some h
  exact eq_of_beq hname

theorem fullName_of_enum? {name : String} {e : EnumType} (h : set.enum? name = some e) :
    e.fullName = plainName name := by
  unfold enum? at h
  have hname := List.find?_some h
  exact eq_of_beq hname

/-- Where no two elements have one key, looking up a key finds the element that has it. -/
theorem find?_key_eq_some_iff {α : Type} {key : α → String} {elements : List α} {element : α}
    (hnodup : (elements.map key).Nodup) (name : String) :
    elements.find? (key · == name) = some element ↔ element ∈ elements ∧ key element = name := by
  constructor
  · intro h
    have hkey := List.find?_some h
    exact ⟨List.mem_of_find?_eq_some h, eq_of_beq hkey⟩
  · rintro ⟨hmem, hkey⟩
    cases hfound : elements.find? (key · == name) with
    | none =>
      have hnone := List.find?_eq_none.1 hfound element hmem
      exact absurd (beq_iff_eq.2 hkey) hnone
    | some other =>
      have hother := List.find?_some hfound
      have hmem' := List.mem_of_find?_eq_some hfound
      rw [List.inj_on_of_nodup_map hnodup hmem' hmem ((eq_of_beq hother).trans hkey.symm)]

theorem nodup_of_firstRepeated? {names seen : List String}
    (h : firstRepeated? seen names = none) : names.Nodup ∧ ∀ name ∈ names, name ∉ seen := by
  induction names generalizing seen with
  | nil => exact ⟨List.nodup_nil, fun _ hn => by cases hn⟩
  | cons name rest ih =>
    unfold firstRepeated? at h
    by_cases hs : name ∈ seen
    · rw [if_pos hs] at h
      cases h
    rw [if_neg hs] at h
    obtain ⟨hnodup, hfresh⟩ := ih h
    refine ⟨List.nodup_cons.2 ⟨fun hn => ?_, hnodup⟩, fun other ho => ?_⟩
    · exact hfresh name hn List.mem_cons_self
    · rcases List.mem_cons.1 ho with rfl | ho
      · exact hs
      · exact fun hin => hfresh other ho (List.mem_cons_of_mem _ hin)

/-- A set is a pool if no name is declared twice and no field has an offence. -/
theorem offence?_eq_none_iff : set.offence? = none ↔
    firstRepeated? [] set.names = none ∧
      ∀ m ∈ set.messages, ∀ f ∈ m.fields, set.fieldOffence? m.declaredName f = none := by
  unfold offence?
  cases firstRepeated? [] set.names with
  | some name =>
    constructor
    · intro h; cases h
    · rintro ⟨h, -⟩; cases h
  | none => simp only [List.findSome?_eq_none_iff, true_and]

end DescriptorSet

namespace Pool

open DescriptorSet

variable (pool : Pool)

theorem ofSet_set : Pool.ofSet pool.set = .ok pool := by
  unfold Pool.ofSet
  split
  · next e he => rw [pool.sound] at he; cases he
  · rfl

theorem exists_ofSet_iff {set : DescriptorSet} :
    (∃ pool, Pool.ofSet set = .ok pool) ↔ set.offence? = none := by
  constructor
  · rintro ⟨pool, hpool⟩
    unfold Pool.ofSet at hpool
    split at hpool
    · cases hpool
    · assumption
  · intro h
    exact ⟨⟨set, h⟩, ofSet_set ⟨set, h⟩⟩

theorem set_of_ofSet {set : DescriptorSet} {pool : Pool} (h : Pool.ofSet set = .ok pool) :
    pool.set = set := by
  unfold Pool.ofSet at h
  split at h
  · cases h
  · cases h
    rfl

theorem names_nodup : pool.set.names.Nodup :=
  (nodup_of_firstRepeated? (offence?_eq_none_iff.1 pool.sound).1).1

/-- A full name belongs to one message of a pool. -/
theorem eq_of_fullName_eq {m n : MessageType} (hm : m ∈ pool.set.messages)
    (hn : n ∈ pool.set.messages) (h : m.fullName = n.fullName) : m = n :=
  List.inj_on_of_nodup_map (List.Nodup.of_append_left pool.names_nodup) hm hn h

theorem message?_eq_some_iff {name : String} {m : MessageType} :
    pool.set.message? name = some m ↔ m ∈ pool.set.messages ∧ m.fullName = plainName name :=
  find?_key_eq_some_iff (List.Nodup.of_append_left pool.names_nodup) _

theorem enum?_eq_some_iff {name : String} {e : EnumType} :
    pool.set.enum? name = some e ↔ e ∈ pool.set.enums ∧ e.fullName = plainName name :=
  find?_key_eq_some_iff (List.Nodup.of_append_right pool.names_nodup) _

theorem schema_of_message? {name : String} {m : pool.set.Message}
    (h : pool.message? name = some m.val) : pool.schema name = pool.schemaOf m := by
  unfold schema
  split
  · next n hn =>
    obtain rfl : n = m.val := Option.some.inj (hn.symm.trans h)
    rfl
  · next hn => rw [h] at hn; cases hn

/-- A message is found under its full name, and under that with a dot in front. -/
theorem schema_of_fullName {name : String} {m : pool.set.Message}
    (h : plainName name = m.val.fullName) : pool.schema name = pool.schemaOf m :=
  pool.schema_of_message? (pool.message?_eq_some_iff.2 ⟨m.property, h.symm⟩)

/-- The fields of a pool are well formed. -/
theorem wellFormed {m : MessageType} (hm : m ∈ pool.set.messages) {f : Field}
    (hf : f ∈ m.fields) : pool.set.WellFormed f :=
  wellFormed_of_fieldOffence? ((offence?_eq_none_iff.1 pool.sound).2 m hm f hf)

end Pool

end MessageSchema
