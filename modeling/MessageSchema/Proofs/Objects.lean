import MessageSchema.Descriptor.Construction
import MessageSchema.Proofs.Collisions

/-!
# The object that a message becomes

The fields of a message become two things side by side: properties, which have each JSON name once,
and the list of names that are required, which repeats a name as often as required fields have it.
The keys of the properties are the names in the order in which they are first met
(`MessageType.keys_properties`), and what stands under a name is the schema of the last field of
that name (`DescriptorSet.mem_properties_iff`). Main statement:
`DescriptorSet.expandMessage_object`.
-/

namespace MessageSchema

/-! ## Fields that are required -/

namespace Field

/-- The field is declared as required, its rules say that it is, or it is a string (one, a list or
a map) and its rules ask for a character at least. -/
def MustBeThere (f : Field) : Prop :=
  f.cardinality = .required ∨ ∃ rules, f.rules = some rules ∧
    (rules.required = true ∨ f.kind = .string ∧ ∃ strings least,
      rules.string = some strings ∧ strings.minLength = some least ∧ 1 ≤ least.val)

theorem isRequired_iff {f : Field} : f.isRequired = true ↔ f.MustBeThere := by
  unfold isRequired MustBeThere FieldRules.minLength
  rw [Bool.or_eq_true, decide_eq_true_eq, Option.any_eq_true]
  refine or_congr_right (exists_congr fun rules => and_congr_right fun _ => ?_)
  rw [Bool.or_eq_true, Bool.and_eq_true, decide_eq_true_eq, Option.any_eq_true]
  refine or_congr_right (and_congr_right fun _ => ?_)
  constructor
  · rintro ⟨least, hleast, hone⟩
    obtain ⟨strings, hstrings, hmin⟩ := Option.bind_eq_some_iff.1 hleast
    exact ⟨strings, least, hstrings, hmin, of_decide_eq_true hone⟩
  · rintro ⟨strings, least, hstrings, hmin, hone⟩
    exact ⟨least, Option.bind_eq_some_iff.2 ⟨strings, hstrings, hmin⟩, decide_eq_true hone⟩

instance : DecidablePred MustBeThere := fun _ => decidable_of_iff _ isRequired_iff

end Field

namespace MessageType

variable (m : MessageType)

theorem requiredNames_eq :
    m.requiredNames = (m.fields.filter (·.MustBeThere)).map (·.jsonName) := by
  unfold requiredNames
  congr 2
  funext f
  rw [Bool.eq_iff_iff, decide_eq_true_eq, Field.isRequired_iff]

/-! ## Properties -/

/-- The properties of the message, from the schemas of its fields in order. -/
def properties (schemas : List Json) : Members :=
  Members.putAll [] ((m.fields.map (·.jsonName)).zip schemas)

theorem shell_eq (schemas : List Json) : m.shell schemas =
    .obj ([("$schema", .str dialect), ("title", .str m.name), ("type", .str "object"),
        ("properties", .obj (m.properties schemas)), ("additionalProperties", .bool false)] ++
      if m.requiredNames = [] then [] else [("required", .strings m.requiredNames)]) := by
  unfold shell properties
  cases m.requiredNames with
  | nil => rfl
  | cons name rest => rfl

theorem keys_properties {schemas : List Json} (h : m.fields.length = schemas.length) :
    (m.properties schemas).map Prod.fst = (m.fields.map (·.jsonName)).eraseDups := by
  have hle : (m.fields.map (·.jsonName)).length ≤ schemas.length := by
    rw [List.length_map]
    exact Nat.le_of_eq h
  rw [properties, Members.keys_putAll, List.map_fst_zip hle]
  simp

/-- Of the fields with a JSON name one is the last. -/
theorem exists_lastNamed {name : String} (h : name ∈ m.fields.map (·.jsonName)) :
    ∃ f, m.LastNamed f ∧ f.jsonName = name := by
  unfold LastNamed
  generalize m.fields = fields at h
  induction fields with
  | nil => cases h
  | cons first rest ih =>
    by_cases hrest : name ∈ rest.map (·.jsonName)
    · obtain ⟨f, ⟨before, after, hsplit, hlast⟩, hname⟩ := ih hrest
      exact ⟨f, ⟨first :: before, after, by rw [hsplit, List.cons_append], hlast⟩, hname⟩
    · have hname : first.jsonName = name := by
        rcases List.mem_cons.1 h with hfirst | hin
        · exact hfirst.symm
        · exact absurd hin hrest
      refine ⟨first, ⟨[], rest, rfl, fun g hg hsame => hrest ?_⟩, hname⟩
      exact List.mem_map.2 ⟨g, hg, hsame.trans hname⟩

end MessageType

namespace DescriptorSet

variable {set : DescriptorSet} {inside : List String}

/-- The properties have the schemas of those fields that are the last of their names. -/
theorem mem_properties_iff {m : MessageType} {schemas : List Json}
    (h : List.Forall₂ (fun f schema => set.expandField inside f = .ok schema) m.fields schemas)
    {name : String} {schema : Json} : (name, schema) ∈ m.properties schemas ↔
      ∃ f, m.LastNamed f ∧ f.jsonName = name ∧ set.expandField inside f = .ok schema := by
  have hkept : ∀ f, m.LastNamed f → ∃ own, set.expandField inside f = .ok own ∧
      (f.jsonName, own) ∈ m.properties schemas := by
    rintro f ⟨before, after, hsplit, hlast⟩
    rw [hsplit] at h
    obtain ⟨first, own, rest, rfl, hfirst, hf, -⟩ := forall₂_split h
    have hat : (Members.get? f.jsonName (m.properties (first ++ own :: rest))).bind (·.at? []) =
        some own := MessageType.shell_at? hsplit hlast hfirst.length_eq []
    obtain ⟨value, hget, hvalue⟩ := Option.bind_eq_some_iff.1 hat
    cases hvalue
    exact ⟨own, hf, Members.mem_of_get? hget⟩
  constructor
  · intro hin
    have hname : name ∈ m.fields.map (·.jsonName) := by
      rcases Members.mem_putAll hin with hnone | hzip
      · cases hnone
      · exact (List.of_mem_zip hzip).1
    obtain ⟨f, named, rfl⟩ := m.exists_lastNamed hname
    obtain ⟨own, hf, hown⟩ := hkept f named
    have hnodup : ((m.properties schemas).map Prod.fst).Nodup :=
      Members.nodup_keys_putAll List.nodup_nil
    have hsame : (f.jsonName, own) = (f.jsonName, schema) :=
      List.inj_on_of_nodup_map hnodup hown hin rfl
    cases hsame
    exact ⟨f, named, rfl, hf⟩
  · rintro ⟨f, named, rfl, hf⟩
    obtain ⟨own, hown, hin⟩ := hkept f named
    rw [hf] at hown
    cases hown
    exact hin

/-- **The expansion of a message is one object, put together from its fields in order.** Its
properties have the JSON names in the order in which they are first met, each with the schema of the
last field of that name. The names of the fields that must be there are required, in order and with
repetitions; all of them are properties, and if there are none nothing is required. Nothing but the
properties is allowed. -/
theorem expandMessage_object {m : set.Message} {document : Json} (fresh : m.val.fullName ∉ inside)
    (h : set.expandMessage inside m = .ok document) :
    ∃ (properties : Members) (required : List String),
      document = .obj ([("$schema", .str dialect), ("title", .str m.val.name),
          ("type", .str "object"), ("properties", .obj properties),
          ("additionalProperties", .bool false)] ++
        if required = [] then [] else [("required", .strings required)]) ∧
      properties.map Prod.fst = (m.val.fields.map (·.jsonName)).eraseDups ∧
      (∀ name schema, (name, schema) ∈ properties ↔ ∃ f, m.val.LastNamed f ∧ f.jsonName = name ∧
        set.expandField (m.val.fullName :: inside) f = .ok schema) ∧
      required = (m.val.fields.filter (·.MustBeThere)).map (·.jsonName) ∧
      required ⊆ properties.map Prod.fst := by
  obtain ⟨schemas, hschemas, rfl⟩ := (expandMessage_eq_ok_iff fresh).1 h
  have hkeys := m.val.keys_properties hschemas.length_eq
  refine ⟨_, _, m.val.shell_eq schemas, hkeys, fun name schema => mem_properties_iff hschemas,
    m.val.requiredNames_eq, fun name hname => ?_⟩
  obtain ⟨f, hf, rfl⟩ := List.mem_map.1 hname
  rw [hkeys, List.mem_eraseDups]
  exact List.mem_map_of_mem (List.mem_of_mem_filter hf)

end DescriptorSet

namespace Pool

open DescriptorSet

/-- Tags, of which there is one at least where they are given. -/
def tags (name : String) (kind : Kind) : Field :=
  (Field.plain name kind).asList.withRules
    { string := some { minLength := some ⟨1, by decide, by decide⟩ } }

/-- Three of the fields have one JSON name, and two of these are strings. -/
def photoType : MessageType where
  declaredName := "album.Photo"
  fields := [tags "tag_list" .string, .ofMessage "album" "album.Album", tags "tag__list" .bytes,
    tags "tagList" .string]

def albumType : MessageType where
  declaredName := "album.Album"
  fields := [(Field.ofMessage "cover" "album.Photo").asRequired]

def album : Pool where
  set := { messages := [photoType, albumType] }
  sound := by decide

theorem album_object : ∃ document properties,
    album.set.expandMessage ["album.Album"] ⟨photoType, .head _⟩ = .ok document ∧
    document = .obj ([("$schema", .str dialect), ("title", .str "Photo"),
      ("type", .str "object"), ("properties", .obj properties),
      ("additionalProperties", .bool false), ("required", .strings ["tagList", "tagList"])]) ∧
    properties.map Prod.fst = ["tagList", "album"] := by
  have fresh : photoType.fullName ∉ ["album.Album"] := by decide
  obtain ⟨document, hdocument⟩ : ∃ document,
      album.set.expandMessage ["album.Album"] ⟨photoType, .head _⟩ = .ok document := by
    have hok : ((album.set.walkMessage ⟨photoType, .head _⟩).run
        ["album.Album"]).1.isOk = true := by
      decide +kernel
    rw [walkMessage_run] at hok
    cases hfound : album.set.expandMessage ["album.Album"] ⟨photoType, .head _⟩ with
    | error e => rw [hfound] at hok; cases hok
    | ok document => exact ⟨document, rfl⟩
  obtain ⟨properties, required, hobject, hkeys, -, hrequired, -⟩ :=
    expandMessage_object (m := ⟨photoType, .head _⟩) fresh hdocument
  have hnames : required = ["tagList", "tagList"] := hrequired.trans (by decide)
  subst hnames
  exact ⟨document, properties, hdocument, hobject, hkeys.trans (by decide)⟩

end Pool

end MessageSchema
