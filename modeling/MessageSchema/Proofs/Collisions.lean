import MessageSchema.Proofs.Walk
import MessageSchema.Proofs.Position
import MessageSchema.Verify.Vocabulary
import Mathlib.Data.List.Dedup

/-!
# Fields of one JSON name

Nothing keeps two fields of a message apart whose JSON names are the same: pools are told what types
are called and never what properties are. The properties of a schema have one member for each JSON
name, with the schema of the last field of that name, and so a field that another one follows under
its name is lost; a name that several required fields have is required several times. Main
statement: these are the only fields that are lost and the only names that are repeated
(`Pool.fields_kept_iff`).
-/

namespace MessageSchema

namespace Members

/-- Members put into an empty object have each key once. -/
theorem keys_putAll_perm (added : Members) :
    ((putAll [] added).map Prod.fst).Perm (added.map Prod.fst).dedup := by
  have hempty : (([] : Members).map Prod.fst).Nodup := List.nodup_nil
  refine (List.perm_ext_iff_of_nodup (nodup_keys_putAll hempty) (List.nodup_dedup _)).2
    fun name => ?_
  rw [mem_keys_putAll, List.mem_dedup]
  exact ⟨fun h => h.resolve_left List.not_mem_nil, .inr⟩

theorem length_putAll (added : Members) :
    (putAll [] added).length = (added.map Prod.fst).dedup.length := by
  rw [← (keys_putAll_perm added).length_eq, List.length_map]

/-- Members put into an empty object keep their keys exactly if these are distinct. -/
theorem keys_putAll_eq_iff {added : Members} :
    (putAll [] added).map Prod.fst = added.map Prod.fst ↔ (added.map Prod.fst).Nodup := by
  constructor
  · intro hsame
    have hempty : (([] : Members).map Prod.fst).Nodup := List.nodup_nil
    exact hsame ▸ nodup_keys_putAll hempty
  · intro hnodup
    have hnew : (([] ++ added : Members).map Prod.fst).Nodup := hnodup
    rw [putAll_of_nodup hnew]
    rfl

/-- Members put into an empty object get fewer exactly if a key is repeated. -/
theorem length_putAll_lt_iff {added : Members} :
    (putAll [] added).length < added.length ↔ ¬ (added.map Prod.fst).Nodup := by
  have hle := (List.dedup_sublist (added.map Prod.fst)).length_le
  have heq : (added.map Prod.fst).dedup.length = added.length ↔ (added.map Prod.fst).Nodup := by
    rw [← List.dedup_eq_self, ← List.length_map (f := Prod.fst)]
    exact ⟨(List.dedup_sublist _).eq_of_length, congrArg List.length⟩
  rw [List.length_map] at hle
  rw [length_putAll, ← heq]
  omega

end Members

namespace MessageType

/-- Of two fields of the message the second has the JSON name of the first. -/
structure Collision (m : MessageType) (f g : Field) : Prop where
  follows : [f, g].Sublist m.fields
  sameName : f.jsonName = g.jsonName

variable {m : MessageType}

theorem jsonNames_nodup_iff {fields : List Field} :
    (fields.map (·.jsonName)).Nodup ↔
      ∀ f g, [f, g].Sublist fields → f.jsonName ≠ g.jsonName := by
  rw [List.Nodup, List.pairwise_map, List.pairwise_iff_forall_sublist]

/-- JSON names are distinct exactly if no field follows another one of its name. -/
theorem not_nodup_iff_collision :
    ¬ (m.fields.map (·.jsonName)).Nodup ↔ ∃ f g, m.Collision f g := by
  rw [jsonNames_nodup_iff]
  push Not
  exact ⟨fun ⟨f, g, hfg, hname⟩ => ⟨f, g, hfg, hname⟩,
    fun ⟨f, g, hfg⟩ => ⟨f, g, hfg.follows, hfg.sameName⟩⟩

/-- A name is required twice exactly if two required fields have it. -/
theorem not_nodup_requiredNames_iff : ¬ m.requiredNames.Nodup ↔
    ∃ f g, m.Collision f g ∧ f.isRequired = true ∧ g.isRequired = true := by
  rw [requiredNames, jsonNames_nodup_iff]
  push Not
  constructor
  · rintro ⟨f, g, hfg, hname⟩
    have hrequired : ∀ h ∈ [f, g], h.isRequired = true := fun h hh =>
      (List.mem_filter.1 (hfg.subset hh)).2
    exact ⟨f, g, ⟨hfg.trans List.filter_sublist, hname⟩, hrequired f List.mem_cons_self,
      hrequired g (.tail _ (.head _))⟩
  · rintro ⟨f, g, hfg, hf, hg⟩
    have hkept : [f, g].filter (·.isRequired) = [f, g] := by
      rw [List.filter_cons_of_pos hf, List.filter_cons_of_pos hg, List.filter_nil]
    exact ⟨f, g, hkept ▸ hfg.follows.filter _, hfg.sameName⟩

theorem get?_required_shell (m : MessageType) (schemas : List Json) :
    (m.shell schemas).get? "required" =
      if m.requiredNames = [] then none else some (.strings m.requiredNames) := by
  unfold shell
  cases m.requiredNames with
  | nil => rfl
  | cons name rest => rfl

end MessageType

namespace Pool

open DescriptorSet

variable (pool : Pool)

/-- **A field is lost exactly if a later field of its message has its JSON name.** There are as many
properties as fields, and then one for each field in order, exactly if no two fields have one JSON
name; otherwise there are fewer, and the last field of a name has its schema there. No name is
required twice unless two required fields have it. -/
theorem fields_kept_iff {m : pool.set.Message} {document : Json}
    (h : pool.schemaOf m = .ok document) :
    ∃ properties : Members, document.get? "properties" = some (.obj properties) ∧
      document.get? "required" =
        (if m.val.requiredNames = [] then none else some (.strings m.val.requiredNames)) ∧
      (properties.map Prod.fst = m.val.fields.map (·.jsonName) ↔ ¬ ∃ f g, m.val.Collision f g) ∧
      (properties.length < m.val.fields.length ↔ ∃ f g, m.val.Collision f g) ∧
      (∀ f, m.val.LastNamed f → ∃ schema, pool.set.expandField [m.val.fullName] f = .ok schema ∧
        document.at? ["properties", f.jsonName] = some schema) ∧
      (¬ m.val.requiredNames.Nodup ↔
        ∃ f g, m.val.Collision f g ∧ f.isRequired = true ∧ g.isRequired = true) := by
  obtain ⟨schemas, hschemas, hshell⟩ := (expandMessage_eq_ok_iff List.not_mem_nil).1 h
  obtain ⟨added, hadded⟩ : ∃ added, added = (m.val.fields.map (·.jsonName)).zip schemas := ⟨_, rfl⟩
  have hkeys : added.map Prod.fst = m.val.fields.map (·.jsonName) := by
    rw [hadded, List.map_fst_zip]
    exact Nat.le_of_eq (List.length_map _ |>.trans hschemas.length_eq)
  have hlength : added.length = m.val.fields.length := by
    rw [← List.length_map (f := Prod.fst), hkeys, List.length_map]
  have hproperties : document.get? "properties" = some (.obj (Members.putAll [] added)) := by
    rw [hshell, hadded]
    rfl
  refine ⟨Members.putAll [] added, hproperties, ?_, ?_, ?_, fun f named => ?_,
    MessageType.not_nodup_requiredNames_iff⟩
  · rw [hshell, MessageType.get?_required_shell]
  · rw [← MessageType.not_nodup_iff_collision, not_not, ← hkeys, Members.keys_putAll_eq_iff]
  · rw [← MessageType.not_nodup_iff_collision, ← hkeys, ← hlength, Members.length_putAll_lt_iff]
  · obtain ⟨schema, hschema, hat⟩ := expandMessage_property List.not_mem_nil h named
    exact ⟨schema, hschema, hat []⟩

/-- The number of a page, under the name that its other spelling has too. -/
def pageNumber (name : String) : Field :=
  { name, kind := .int32, rules := some { required := true } }

def requestType : MessageType where
  declaredName := "search.Request"
  fields := [pageNumber "page_number", .ofType "parent" .message "search.Request",
    pageNumber "page__number"]

/-- A pool in which two required fields of a message have one JSON name. -/
def search : Pool where
  set := { messages := [requestType] }
  sound := by decide

def request : search.set.Message := ⟨requestType, .head _⟩

theorem search_fields_kept : ∃ document properties, search.schemaOf request = .ok document ∧
    document.get? "properties" = some (.obj properties) ∧
    properties.length < requestType.fields.length ∧
    requestType.Collision (pageNumber "page_number") (pageNumber "page__number") := by
  obtain ⟨document, hdocument⟩ := search.exists_schemaOf request (by decide)
  obtain ⟨properties, hproperties, -, -, hfewer, -⟩ := search.fields_kept_iff hdocument
  have hcollision : requestType.Collision (pageNumber "page_number") (pageNumber "page__number") :=
    ⟨(.cons_cons _ (.cons _ (.refl _))), by decide⟩
  exact ⟨document, properties, hdocument, hproperties, hfewer.2 ⟨_, _, hcollision⟩, hcollision⟩

/-- A pool is accepted whose message has three fields and two properties; one of these is required
twice, and so the schema is not valid. -/
theorem pageNumber_lost : Pool.ofSet search.set = .ok search ∧ requestType.fields.length = 3 ∧
    ∃ document properties, search.schemaOf request = .ok document ∧
      document.get? "properties" = some (.obj properties) ∧
      properties.map Prod.fst = ["pageNumber", "parent"] ∧
      document.get? "required" = some (.strings ["pageNumber", "pageNumber"]) ∧
      document.fault? = some (.notUnique (.strings ["pageNumber", "pageNumber"])) := by
  obtain ⟨properties, hkeys⟩ : ∃ properties : Members,
      properties = [("pageNumber", .obj [("type", .str "integer")]),
        ("parent", .obj [("type", .str "object")])] := ⟨_, rfl⟩
  obtain ⟨document, hdocument, hfound⟩ : ∃ document, search.schemaOf request = .ok document ∧
      decide (document.get? "properties" = some (.obj properties) ∧
        document.get? "required" = some (.strings ["pageNumber", "pageNumber"]) ∧
        document.fault? = some (.notUnique (.strings ["pageNumber", "pageNumber"]))) = true := by
    rw [hkeys]
    exact exists_schemaOf_with (by decide +kernel)
  obtain ⟨hproperties, hrequired, hfault⟩ := of_decide_eq_true hfound
  exact ⟨search.ofSet_set, rfl, document, properties, hdocument, hproperties, hkeys ▸ rfl,
    hrequired, hfault⟩

end Pool

end MessageSchema
