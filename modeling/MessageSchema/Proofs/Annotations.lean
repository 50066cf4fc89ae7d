import MessageSchema.Proofs.WellKnownTypes

/-!
# Annotations of well-known types

Presence, descriptions and rules mean nothing where values are of a well-known type, but for the
rule that a field must be there. `Field.stripped` takes all of these annotations away and nothing
else; what two sets have in common that differ in such annotations alone is the set without them.
Expansion does not see them (`expandField_stripped`, `expandMessage_stripped`), and so the sets have
the same schemas (`Pool.schema_stripped`). Main statement: `Pool.annotations_ignored`.
-/

namespace MessageSchema

/-! ## Taking annotations away -/

/-- Rules without those for the items of a list; no rules are the same as empty ones. -/
def FieldRules.withoutItems (rules : Option FieldRules) : FieldRules :=
  { rules.getD {} with
    repeated := some { (rules.bind (·.repeated)).getD {} with items := none } }

/-- Rules without those for the values of a map. -/
def FieldRules.withoutValues (rules : Option FieldRules) : FieldRules :=
  { rules.getD {} with map := some { (rules.bind (·.map)).getD {} with values := none } }

namespace FieldRules

theorem repeatedKeywords_withoutItems (rules : Option FieldRules) :
    ((some (withoutItems rules)).bind (·.repeated)).elim [] (·.keywords) =
      (rules.bind (·.repeated)).elim [] (·.keywords) := by
  cases rules with
  | none => rfl
  | some rules =>
    simp only [withoutItems, Option.bind_some, Option.getD_some]
    cases rules.repeated <;> rfl

theorem mapKeywords_withoutValues (rules : Option FieldRules) :
    ((some (withoutValues rules)).bind (·.map)).elim [] (·.keywords) =
      (rules.bind (·.map)).elim [] (·.keywords) := by
  cases rules with
  | none => rfl
  | some rules =>
    simp only [withoutValues, Option.bind_some, Option.getD_some]
    cases rules.map <;> rfl

end FieldRules

namespace Field

/-- The field without presence, description and rules. -/
def bare (f : Field) : Field := { f with presence := false, annotations := none, rules := none }

/-- Of presence, description and rules only the rule that the field must be there is left. -/
def onlyRequired (f : Field) : Field :=
  { f.bare with rules := some { required := f.rules.any (·.required) } }

/-- The list without presence and without rules for items. -/
def withoutItemRules (f : Field) : Field :=
  { f with presence := false, rules := some (.withoutItems f.rules) }

/-- The map of values that are described by another field. -/
def withValue (f value : Field) : Field := { f with mapValue := some value }

/-- The map without rules for values. -/
def withoutValueRules (f : Field) : Field := { f with rules := some (.withoutValues f.rules) }

/-- A field without the annotations of values of a well-known type. A single value of such a type
keeps nothing but the rule that it must be there; a list loses its presence and the rules for its
items; a map of single values loses all annotations of the values, and its own rules for them. -/
def stripped (f : Field) : Field :=
  match f with
  | { cardinality := .map, mapValue := some value, .. } =>
    if value.cardinality = .singular ∧ value.wellKnown? ≠ none then
      (f.withValue value.bare).withoutValueRules
    else f.withValue value.stripped
  | _ =>
    if f.cardinality = .map ∨ f.wellKnown? = none then f
    else if f.isList then f.withoutItemRules
    else f.onlyRequired
termination_by structural f

/-- What can be left of a field. -/
inductive StripsTo : Field → Field → Prop
  | kept (f : Field) : StripsTo f f
  | single {f : Field} (layer : f.cardinality ≠ .map) (one : ¬ f.isList = true)
      (special : f.wellKnown? ≠ none) : StripsTo f f.onlyRequired
  | list {f : Field} (layer : f.cardinality ≠ .map) (many : f.isList = true)
      (special : f.wellKnown? ≠ none) : StripsTo f f.withoutItemRules
  | values {f value : Field} (layer : f.cardinality = .map) (values : f.mapValue = some value)
      (one : value.cardinality = .singular) (special : value.wellKnown? ≠ none) :
      StripsTo f (f.withValue value.bare).withoutValueRules
  | map {f value rest : Field} (layer : f.cardinality = .map) (values : f.mapValue = some value)
      (below : StripsTo value rest) : StripsTo f (f.withValue rest)

theorem stripsTo_stripped_of_leaf {f : Field}
    (hleaf : f.cardinality = .map → f.mapValue = none) : f.StripsTo f.stripped := by
  unfold stripped
  split
  · cases hleaf rfl
  split
  · exact .kept f
  next h =>
  obtain ⟨layer, special⟩ := not_or.1 h
  split
  · next many => exact .list layer many special
  · next one => exact .single layer one special

theorem stripsTo_stripped : ∀ f : Field, f.StripsTo f.stripped
  | { name, jsonName?, kind, cardinality := .map, presence, typeName?, mapValue := some value,
      annotations, rules } => by
    rw [stripped]
    split
    · next hbare => exact .values rfl rfl hbare.1 hbare.2
    · exact .map rfl rfl (stripsTo_stripped value)
  | { cardinality := .map, mapValue := none, .. } => stripsTo_stripped_of_leaf fun _ => rfl
  | { cardinality := .singular, .. } | { cardinality := .repeated, .. }
  | { cardinality := .required, .. } => stripsTo_stripped_of_leaf nofun

namespace StripsTo

variable {f g : Field}

/-- Only annotations are taken away. -/
theorem exists_eq (h : f.StripsTo g) : ∃ presence mapValue annotations rules,
    g = { f with presence, mapValue, annotations, rules } := by
  cases h with
  | kept =>
    cases f
    exact ⟨_, _, _, _, rfl⟩
  | _ => exact ⟨_, _, _, _, rfl⟩

end StripsTo

/-- What is read of rules to tell whether a field must be there. -/
theorem isRequired_eq (f : Field) : f.isRequired = (decide (f.cardinality = .required) ||
    (f.rules.any (·.required) ||
      decide (f.kind = .string) && (f.rules.bind (·.minLength)).any fun n => 1 ≤ n.val)) := by
  unfold isRequired
  cases f.rules with
  | none => simp
  | some rules => rfl

/-- A field keeps its JSON name, and still must be there if it must. -/
theorem StripsTo.namedAlike {f g : Field} (h : f.StripsTo g) : f.NamedAlike g := by
  constructor
  · obtain ⟨_, _, _, _, rfl⟩ := h.exists_eq
    rfl
  rw [isRequired_eq, isRequired_eq]
  cases h with
  | kept | map => rfl
  | single layer one special =>
    obtain ⟨type, htype⟩ := Option.ne_none_iff_exists'.1 special
    simp [onlyRequired, bare, kind_of_wellKnown? htype]
  | list | values =>
    simp only [withoutItemRules, withoutValueRules, withValue]
    cases f.rules <;> rfl

end Field

/-- The message without the annotations of values of well-known types. -/
def MessageType.stripped (m : MessageType) : MessageType :=
  { m with fields := m.fields.map (·.stripped) }

theorem MessageType.fullName_stripped (m : MessageType) : m.stripped.fullName = m.fullName := rfl

/-- The set without the annotations of values of well-known types. -/
def DescriptorSet.stripped (set : DescriptorSet) : DescriptorSet := set.mapMessages (·.stripped)

/-! ## The same schemas -/

namespace Field

variable {set : DescriptorSet} {f value : Field} {type : WellKnown}

/-- Nothing is put around one value of a well-known type. -/
theorem dress_of_single (one : ¬ f.isList = true) (special : f.wellKnown? = some type)
    (schema : Json) : f.dress set schema = schema := by
  rw [dress, if_neg one, special]
  rfl

/-- The items of a list of a well-known type take no rules. -/
theorem dress_withoutItemRules (many : f.isList = true) (special : f.wellKnown? = some type) :
    f.withoutItemRules.dress set = f.dress set := by
  have many' : f.withoutItemRules.isList = true := many
  have special' : f.withoutItemRules.wellKnown? = some type := special
  funext schema
  rw [dress, dress, if_pos many, if_pos many', listSchema, listSchema, special, special']
  exact congrArg (Json.putAll · _) (FieldRules.repeatedKeywords_withoutItems f.rules)

/-- The values of a map of a well-known type take no rules. -/
theorem mapSchema_withoutValueRules (special : value.wellKnown? = some type) :
    (f.withValue value.bare).withoutValueRules.mapSchema set value.bare =
      f.mapSchema set value := by
  have special' : value.bare.wellKnown? = some type := special
  funext schema
  rw [mapSchema, mapSchema, special, special']
  exact congrArg (Json.putAll · _) (FieldRules.mapKeywords_withoutValues f.rules)

end Field

namespace DescriptorSet

variable {set : DescriptorSet} {inside : List String}

theorem expandField_of_wellKnown {f : Field} {type : WellKnown} (layer : f.cardinality ≠ .map)
    (special : f.wellKnown? = some type) :
    set.expandField inside f = .ok (f.dress set type.schema) := by
  rw [expandField_of_not_map layer, expandValue_of_wellKnown special]
  rfl

/-- A field is expanded alike without the annotations of values of a well-known type. -/
theorem expandField_of_stripsTo {f g : Field} (h : f.StripsTo g) :
    set.expandField inside g = set.expandField inside f := by
  induction h with
  | kept => rfl
  | @single f layer one special =>
    obtain ⟨type, htype⟩ := Option.ne_none_iff_exists'.1 special
    have layer' : f.onlyRequired.cardinality ≠ .map := layer
    have one' : ¬ f.onlyRequired.isList = true := one
    have htype' : f.onlyRequired.wellKnown? = some type := htype
    rw [expandField_of_wellKnown layer htype, expandField_of_wellKnown layer' htype',
      Field.dress_of_single one htype, Field.dress_of_single one' htype']
  | @list f layer many special =>
    obtain ⟨type, htype⟩ := Option.ne_none_iff_exists'.1 special
    have layer' : f.withoutItemRules.cardinality ≠ .map := layer
    have htype' : f.withoutItemRules.wellKnown? = some type := htype
    rw [expandField_of_wellKnown layer htype, expandField_of_wellKnown layer' htype',
      Field.dress_withoutItemRules many htype]
  | @values f value layer values one special =>
    obtain ⟨type, htype⟩ := Option.ne_none_iff_exists'.1 special
    have hvalue : value.cardinality ≠ .map ∧ ¬ value.isList = true := by simp [Field.isList, one]
    have hvalue' : value.bare.cardinality ≠ .map ∧ ¬ value.bare.isList = true := hvalue
    have htype' : value.bare.wellKnown? = some type := htype
    have layer' : (f.withValue value.bare).withoutValueRules.cardinality = .map := layer
    rw [expandField_of_map layer values, expandField_of_map layer' rfl,
      expandField_of_wellKnown hvalue.1 htype, expandField_of_wellKnown hvalue'.1 htype',
      Field.dress_of_single hvalue.2 htype, Field.dress_of_single hvalue'.2 htype',
      Field.mapSchema_withoutValueRules htype]
  | @map f value rest layer values below ih =>
    have hmap : (f.withValue rest).mapSchema set rest = f.mapSchema set value := by
      obtain ⟨_, _, _, _, rfl⟩ := below.exists_eq
      rfl
    have layer' : (f.withValue rest).cardinality = .map := layer
    rw [expandField_of_map layer values, expandField_of_map layer' rfl, ih, hmap]

/-- A message is expanded alike without the annotations of values of well-known types. -/
theorem expandMessage_stripped (inside : List String) (m : set.Message) :
    set.expandMessage inside m =
      set.stripped.expandMessage inside ⟨m.val.stripped, mem_mapMessages m.property⟩ := by
  induction inside, m using expansion_induction with
  | step inside m ih =>
    by_cases hm : m.val.fullName ∈ inside
    · rw [expandMessage_of_mem hm, expandMessage_of_mem (by exact hm)]
    have hfields : List.Forall₂ (fun f g => g.name = f.name ∧
        set.expandField (m.val.fullName :: inside) f =
          set.stripped.expandField (m.val.fullName :: inside) g)
        m.val.fields m.val.stripped.fields := by
      refine List.forall₂_map_right_iff.2 (List.forall₂_same.2 fun f _ => ?_)
      constructor
      · obtain ⟨_, _, _, _, hstripped⟩ := f.stripsTo_stripped.exists_eq
        rw [hstripped]
      · rw [expandField_of_stripsTo f.stripsTo_stripped]
        exact expandField_mapMessages MessageType.fullName_stripped (ih hm) f
    have hshell : m.val.stripped.shell = m.val.shell :=
      MessageType.shell_eq_of_namedAlike rfl <|
        List.forall₂_map_right_iff.2 (List.forall₂_same.2 fun f _ => f.stripsTo_stripped.namedAlike)
    rw [expandMessage_of_not_mem hm, expandMessage_of_not_mem (by exact hm),
      expandFields_forall₂ hfields, hshell]
    rfl

/-! ## The same check -/

theorem wellFormed_iff_of_value {f value : Field} (layer : f.cardinality = .map)
    (values : f.mapValue = some value) :
    set.WellFormed f ↔ f.name ≠ "" ∧ set.WellFormed value := by
  rw [wellFormed_map_iff layer, values]
  simp only [Option.some.injEq, exists_eq_left']

/-- A field is well formed exactly if it is so without these annotations. -/
theorem wellFormed_of_stripsTo {f g : Field} (h : f.StripsTo g) :
    set.WellFormed g ↔ set.WellFormed f := by
  induction h with
  | kept => exact Iff.rfl
  | @single f layer _ _ =>
    have layer' : f.onlyRequired.cardinality ≠ .map := layer
    rw [wellFormed_single_iff layer, wellFormed_single_iff layer']
    rfl
  | @list f layer _ _ =>
    have layer' : f.withoutItemRules.cardinality ≠ .map := layer
    rw [wellFormed_single_iff layer, wellFormed_single_iff layer']
    rfl
  | @values f value layer values one _ =>
    have hvalue : value.cardinality ≠ .map := by rw [one]; decide
    have hvalue' : value.bare.cardinality ≠ .map := hvalue
    have layer' : (f.withValue value.bare).withoutValueRules.cardinality = .map := layer
    have hbare : set.WellFormed value.bare ↔ set.WellFormed value := by
      rw [wellFormed_single_iff hvalue, wellFormed_single_iff hvalue']
      rfl
    rw [wellFormed_iff_of_value layer values, wellFormed_iff_of_value layer' rfl, hbare]
    rfl
  | @map f value rest layer values below ih =>
    have layer' : (f.withValue rest).cardinality = .map := layer
    rw [wellFormed_iff_of_value layer values, wellFormed_iff_of_value layer' rfl, ih]
    rfl

/-- A set is a pool exactly if it is one without such annotations. -/
theorem offence?_stripped : set.stripped.offence? = none ↔ set.offence? = none := by
  rw [offence?_eq_none_iff, offence?_eq_none_iff, stripped,
    names_mapMessages MessageType.fullName_stripped]
  refine and_congr_right fun _ => ?_
  show (∀ m ∈ set.messages.map (·.stripped), _) ↔ _
  rw [List.forall_mem_map]
  refine forall₂_congr fun m _ => ?_
  show (∀ f ∈ m.fields.map (·.stripped), _) ↔ _
  rw [List.forall_mem_map]
  refine forall₂_congr fun f _ => ?_
  rw [fieldOffence?_mapMessages MessageType.fullName_stripped, fieldOffence?_eq_none_iff,
    fieldOffence?_eq_none_iff, wellFormed_of_stripsTo f.stripsTo_stripped]

end DescriptorSet

namespace Pool

open DescriptorSet

variable (pool : Pool)

theorem schema_of_missing {name : String} (h : pool.message? name = none) :
    pool.schema name = .error (.messageNotFound name) := by
  unfold schema
  split
  · next m hm => rw [h] at hm; cases hm
  · rfl

/-- The pool without the annotations of values of well-known types. -/
def stripped : Pool where
  set := pool.set.stripped
  sound := offence?_stripped.2 pool.sound

/-- Every name has the same schema, or the same error, without such annotations. -/
theorem schema_stripped (name : String) : pool.stripped.schema name = pool.schema name := by
  have hfound : pool.stripped.message? name = (pool.message? name).map (·.stripped) :=
    message?_mapMessages MessageType.fullName_stripped name
  cases hm : pool.message? name with
  | none =>
    rw [hm, Option.map_none] at hfound
    rw [schema_of_missing pool.stripped hfound, schema_of_missing pool hm]
  | some m =>
    have hin : m ∈ pool.set.messages := mem_of_message? hm
    rw [hm, Option.map_some] at hfound
    rw [pool.schema_of_message? (m := ⟨m, hin⟩) hm,
      pool.stripped.schema_of_message? (m := ⟨m.stripped, mem_mapMessages hin⟩) hfound]
    exact (expandMessage_stripped [] ⟨m, hin⟩).symm

/-- **Annotations never touch a well-known type.** A set that differs from a pool only in the
presence, descriptions and rules of values of well-known types, while the same fields must be there,
is a pool with the same schema, or the same error, for every name. And wherever a message is written
out in a document, a field of it whose values are of a well-known type has the schema of the type
that it names, as a property, as the items of a list or as the values of a map. -/
theorem annotations_ignored {other : DescriptorSet} (h : other.stripped = pool.set.stripped) :
    (∃ twin : Pool, Pool.ofSet other = .ok twin ∧
      ∀ name, twin.schema name = pool.schema name) ∧
    ∀ (m : pool.set.Message) document, pool.schemaOf m = .ok document →
      ∀ way shell, document.follow? way = some shell → shell.IsShell →
        ∃ n, pool.set.WrittenAt m.val way n ∧ ∀ f type, n.LastNamed f → f.leaf.kind = .message →
          f.leaf.typeName.bind WellKnown.ofName? = some type →
          shell.at? f.position = some type.schema := by
  constructor
  · have hsound : other.offence? = none := by
      rw [← offence?_stripped, h, offence?_stripped]
      exact pool.sound
    let twin : Pool := ⟨other, hsound⟩
    have htwin : twin.stripped = pool.stripped := by
      unfold stripped
      congr
    refine ⟨twin, twin.ofSet_set, fun name => ?_⟩
    rw [← twin.schema_stripped, htwin, pool.schema_stripped]
  · intro m document hdocument way shell hfollow hshell
    obtain ⟨n, value, hat, hvalue, hwritten⟩ :=
      pool.exists_writtenAt [] m hdocument ⟨shell, hfollow, hshell⟩
    obtain rfl : shell = value := Option.some.inj (hfollow.symm.trans hvalue)
    refine ⟨n, hat, fun f type named hk hname => ?_⟩
    have special : f.leaf.wellKnown? = some type := by rw [Field.wellKnown?, if_pos hk, hname]
    exact pool.at?_position_of_writtenOut hwritten named special

/-- The time of an entry. -/
def stamp : Field := .ofMessage "at" ".google.protobuf.Timestamp"

/-- Annotations that mean nothing for a time. -/
def stampRules : FieldRules where
  string := some { minLength := some ⟨6, by decide, by decide⟩ }

def annotatedStamp : Field :=
  { ((stamp.withDescription "When.").withRules stampRules) with presence := true }

def entryType : MessageType where
  declaredName := "diary.Entry"
  fields := [stamp, (Field.ofMessage "edits" "google.protobuf.Timestamp").asList,
    .mapOf "read" stamp, .mapOf "shelves" (.mapOf "read" stamp), .ofMessage "next" "diary.Entry"]

/-- A diary whose times are annotated nowhere. -/
def diary : Pool where
  set := { messages := [entryType] }
  sound := by decide

def entry : diary.set.Message := ⟨entryType, .head _⟩

/-- Rules for the values of a map. -/
def valueRules : FieldRules where
  map := some { values := some stampRules }

def annotatedType : MessageType where
  declaredName := "diary.Entry"
  fields := [annotatedStamp,
    { (Field.ofMessage "edits" "google.protobuf.Timestamp").asList with
      presence := true
      rules := some { repeated := some { items := some stampRules } } },
    (Field.mapOf "read" annotatedStamp).withRules valueRules,
    .mapOf "shelves" ((Field.mapOf "read" annotatedStamp).withRules valueRules),
    .ofMessage "next" "diary.Entry"]

theorem diary_annotations_ignored : ∃ twin,
    Pool.ofSet { messages := [annotatedType] } = .ok twin ∧
    twin.schema "diary.Entry" = diary.schema "diary.Entry" ∧ ∃ document,
      diary.schema "diary.Entry" = .ok document ∧
      document.at? ["properties", "at"] = some WellKnown.timestamp.schema := by
  have hsame : DescriptorSet.stripped { messages := [annotatedType] } = diary.set.stripped := rfl
  obtain ⟨⟨twin, htwin, hschema⟩, -⟩ := diary.annotations_ignored hsame
  obtain ⟨document, hdocument, hstamp⟩ : ∃ document, diary.schemaOf entry = .ok document ∧
      decide (document.at? ["properties", "at"] = some WellKnown.timestamp.schema) = true :=
    exists_schemaOf_with (by decide +kernel)
  have hentry : diary.schema "diary.Entry" = .ok document :=
    (diary.schema_of_fullName rfl).trans hdocument
  exact ⟨twin, htwin, hschema _, document, hentry, of_decide_eq_true hstamp⟩

end Pool

end MessageSchema
