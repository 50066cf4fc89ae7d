import MessageSchema.Proofs.Unfolding
import MessageSchema.Proofs.RuleKeys

/-!
# Where messages stand in a document

The document of a message has a value for each of its fields, below it one for each layer of maps
and for the items of a list (`Field.position`). Following fields from message to message, one comes
to the schema of the last message as it is inside the messages passed (`expandMessage_at_route`).
Hence a message is written out exactly where it is met for the first time on the way, and where it
was passed before there is a bare object (`schemaOf_at_route`).
-/

namespace MessageSchema

/-! ## Positions -/

/-- The value that one comes to from key to key. -/
def Json.at? : Json → List String → Option Json
  | value, [] => some value
  | value, key :: rest => (value.get? key).bind (·.at? rest)

theorem Json.at?_append (value : Json) (first second : List String) :
    value.at? (first ++ second) = (value.at? first).bind (·.at? second) := by
  induction first generalizing value with
  | nil => rfl
  | cons key rest ih =>
    show (value.get? key).bind _ = ((value.get? key).bind _).bind _
    cases value.get? key with
    | none => rfl
    | some below => exact ih below

theorem Json.at?_cons {value below : Json} {key : String} {rest : List String}
    (h : value.get? key = some below) : value.at? (key :: rest) = below.at? rest := by
  rw [at?, h, Option.bind_some]

namespace Field

/-- The keys from the schema of a field to that of one of its values. -/
def valueKeys : Field → List String
  | { cardinality := .map, mapValue := some value, .. } => "additionalProperties" :: value.valueKeys
  | f => if f.isList then ["items"] else []
termination_by structural f => f

theorem valueKeys_of_map {f value : Field} (hc : f.cardinality = .map)
    (hv : f.mapValue = some value) : f.valueKeys = "additionalProperties" :: value.valueKeys := by
  cases f
  simp only at hc hv
  subst hc hv
  rw [valueKeys]

theorem valueKeys_of_not_map {f : Field} (hc : f.cardinality ≠ .map) :
    f.valueKeys = if f.isList then ["items"] else [] := by
  unfold valueKeys
  split
  · exact absurd rfl hc
  · rfl

/-- The keys from the document of a message to the schema of one value of a field. -/
def position (f : Field) : List String := "properties" :: f.jsonName :: f.valueKeys

/-- The schema of a message as the value of a leaf. The items of a list take nothing; one value
takes the description of the field, and null if the field allows it. -/
def worn (f : Field) (schema : Json) : Json :=
  if f.isList then schema
  else if f.isNullable then (schema.withDescription f.description).orNull
  else schema.withDescription f.description

/-- A bare object as the value of a leaf. -/
def cut (f : Field) : Json :=
  if f.isList then bareObject
  else .obj (("type", if f.isNullable then .strings ["object", "null"] else .str "object") ::
    ((f.description.filter (· ≠ "")).map fun text => ("description", Json.str text)).toList)

theorem worn_bareObject (f : Field) : f.worn bareObject = f.cut := by
  unfold worn cut
  by_cases hl : f.isList = true
  · rw [if_pos hl, if_pos hl]
  rw [if_neg hl, if_neg hl]
  cases f.description with
  | none => cases f.isNullable <;> rfl
  | some text =>
    by_cases ht : text = ""
    · subst ht
      cases f.isNullable <;> rfl
    · have hf : (some text).filter (· ≠ "") = some text := by
        rw [Option.filter_some, if_pos (decide_eq_true ht)]
      rw [hf, Json.withDescription, if_neg ht]
      cases f.isNullable <;> rfl

/-- What a leaf adds to the schema of a message is a description and a type. -/
theorem get?_worn (f : Field) (schema : Json) {key : String}
    (h : key ∉ ["description", "type", "oneOf"]) : (f.worn schema).get? key = schema.get? key := by
  simp only [List.mem_cons, List.not_mem_nil, or_false, not_or] at h
  obtain ⟨hd, ht, ho⟩ := h
  unfold worn
  split
  · rfl
  split
  · rw [Json.get?_orNull (Ne.symm ht) (Ne.symm ho), Json.get?_withDescription (Ne.symm hd)]
  · exact Json.get?_withDescription (Ne.symm hd)

/-- The value that one comes to below a leaf, if a property that rules of its kind keep holds of
it, comes out of a map with that property. -/
theorem exists_at?_withRules {P : Json → Prop} {f : Field} {rules : FieldRules}
    {enum : Option EnumType} {schema value : Json} (hat : schema.at? f.valueKeys = some value)
    (hvalue : P value) (hleaf : f.cardinality = .map → f.mapValue ≠ none)
    (hrules : ∀ schema, P schema → P (schema.withRules rules f.leaf.kind enum)) :
    ∃ value, (schema.withRules rules f.kind enum).at? f.valueKeys = some value ∧ P value := by
  -- a map and a list are below a key that no rule is put under
  have hbelow : ∀ key rest, f.valueKeys = key :: rest → key ∉ f.kind.ruleKeys →
      ∃ value, (schema.withRules rules f.kind enum).at? f.valueKeys = some value ∧ P value := by
    intro key rest hkeys hkey
    refine ⟨value, ?_, hvalue⟩
    rw [hkeys, Json.at?] at hat ⊢
    rwa [Json.get?_withRules hkey]
  by_cases hc : f.cardinality = .map
  · obtain ⟨inner, hv⟩ := Option.ne_none_iff_exists'.1 (hleaf hc)
    exact hbelow _ _ (valueKeys_of_map hc hv) (by cases f.kind <;> decide)
  by_cases hl : f.isList = true
  · exact hbelow "items" [] (by rw [valueKeys_of_not_map hc, if_pos hl])
      (by cases f.kind <;> decide)
  · have hkeys : f.valueKeys = [] := by rw [valueKeys_of_not_map hc, if_neg hl]
    rw [leaf_of_not_map hc] at hrules
    rw [hkeys] at hat ⊢
    cases hat
    exact ⟨_, rfl, hrules _ hvalue⟩

/-- Under its keys the schema of a field has what its leaf made of the schema of the value, as far
as rules of the kind of the leaf leave it alone. -/
theorem exists_at?_assemble {P : Json → Prop} {set : DescriptorSet} {f : Field}
    (hf : set.WellFormed f) {schema : Json}
    (hdress : ∃ value, (f.leaf.dress set schema).at? f.leaf.valueKeys = some value ∧ P value)
    (hrules : ∀ rules enum schema, P schema → P (schema.withRules rules f.leaf.kind enum)) :
    ∃ value, (f.assemble set schema).at? f.valueKeys = some value ∧ P value := by
  induction hf with
  | @map f value _ layer values below ih =>
    rw [leaf_of_map layer values] at hdress hrules
    obtain ⟨inner, hat, hinner⟩ := ih hdress hrules
    have hleaf : value.cardinality = .map → value.mapValue ≠ none := by
      cases below with
      | map _ _ values _ => exact fun _ => by rw [values]; exact Option.some_ne_none _
      | leaf _ single _ => exact fun hc => absurd hc single
    rw [assemble_of_map layer values, valueKeys_of_map layer values]
    unfold mapSchema
    simp only
    rw [Json.at?, Json.get?_withMapRules (by decide), Json.get?_withDescription (by decide)]
    show ∃ found, Json.at? _ value.valueKeys = some found ∧ P found
    split
    · exact exists_at?_withRules hat hinner hleaf (hrules _ _)
    · exact ⟨inner, hat, hinner⟩
  | @leaf f _ single _ =>
    rw [leaf_of_not_map single] at hdress
    rw [assemble_of_not_map single]
    exact hdress

theorem get?_listSchema {set : DescriptorSet} (f : Field) (item : Json) :
    (f.listSchema set item).get? "items" =
      some (match f.wellKnown?, f.repeatedRules.bind (·.items) with
        | none, some rules => item.withRules rules f.kind (set.enumOf? f)
        | _, _ => item) := by
  unfold listSchema
  simp only
  rw [Json.get?_withRepeatedRules (by decide), Json.get?_withDescription (by decide)]
  rfl

theorem at?_dress_message {set : DescriptorSet} {f : Field} (hc : f.cardinality ≠ .map)
    (hk : f.kind = .message) (special : f.wellKnown? = none) (schema : Json) :
    (f.dress set schema).at? f.valueKeys = some (f.worn schema) := by
  rw [valueKeys_of_not_map hc]
  unfold dress worn
  by_cases hl : f.isList = true
  · rw [if_pos hl, if_pos hl, if_pos hl, Json.at?_cons (get?_listSchema f schema), Json.at?,
      special]
    cases f.repeatedRules.bind (·.items) with
    | none => rfl
    | some rules => simp only [hk, Json.withRules_message]
  · rw [if_neg hl, if_neg hl, if_neg hl, special]
    simp only [Option.isSome_none, Bool.false_eq_true, if_false, Json.at?]
    unfold singleSchema
    cases f.rules with
    | none => rfl
    | some rules => simp only [Option.elim_some, hk, Json.withRules_message]

/-- Under its keys the schema of a field has the schema of the message it refers to. -/
theorem at?_assemble_message {set : DescriptorSet} {f : Field} (hf : set.WellFormed f)
    (hk : f.leaf.kind = .message) (special : f.leaf.wellKnown? = none) (schema : Json) :
    (f.assemble set schema).at? f.valueKeys = some (f.leaf.worn schema) := by
  obtain ⟨value, hat, rfl⟩ := exists_at?_assemble (P := (· = f.leaf.worn schema)) hf
    ⟨_, at?_dress_message hf.leaf_single hk special schema, rfl⟩
    (fun rules enum schema hs => by rw [hk, Json.withRules_message, hs])
  exact hat

end Field

/-! ## Documents of messages -/

/-- A field of the message after which no other has its JSON name. -/
def MessageType.LastNamed (m : MessageType) (f : Field) : Prop :=
  ∃ before after, m.fields = before ++ f :: after ∧ ∀ g ∈ after, g.jsonName ≠ f.jsonName

theorem MessageType.LastNamed.mem {m : MessageType} {f : Field} (h : m.LastNamed f) :
    f ∈ m.fields := by
  obtain ⟨before, after, hsplit, -⟩ := h
  rw [hsplit]
  exact List.mem_append_cons_self

theorem MessageType.lastNamed_of_nodup {m : MessageType}
    (h : (m.fields.map (·.jsonName)).Nodup) {f : Field} (hf : f ∈ m.fields) : m.LastNamed f := by
  obtain ⟨before, after, hsplit⟩ := List.append_of_mem hf
  refine ⟨before, after, hsplit, fun g hg hname => ?_⟩
  rw [hsplit, List.map_append, List.map_cons] at h
  obtain ⟨-, hrest, -⟩ := List.nodup_append.1 h
  exact (List.nodup_cons.1 hrest).1 (hname ▸ List.mem_map_of_mem hg)

section Split

variable {m : MessageType} {before after : List Field} {f : Field} {first rest : List Json}

/-- The schema of a field stands beside its JSON name. -/
theorem MessageType.zip_jsonNames (hsplit : m.fields = before ++ f :: after)
    (hlength : before.length = first.length) (schema : Json) :
    (m.fields.map (·.jsonName)).zip (first ++ schema :: rest) =
      (before.map (·.jsonName)).zip first ++
        (f.jsonName, schema) :: (after.map (·.jsonName)).zip rest := by
  rw [hsplit, List.map_append, List.map_cons, List.zip_append (by rw [List.length_map, hlength])]
  rfl

theorem jsonName_not_mem_zip (hlast : ∀ g ∈ after, g.jsonName ≠ f.jsonName) :
    f.jsonName ∉ ((after.map (·.jsonName)).zip rest).map Prod.fst := by
  intro hin
  obtain ⟨entry, hentry, hname⟩ := List.mem_map.1 hin
  obtain ⟨g, hg, hgname⟩ := List.mem_map.1 (List.of_mem_zip hentry).1
  exact hlast g hg (hgname.trans hname)

/-- The properties of a message have the schema of a field under its JSON name. -/
theorem MessageType.shell_at? {schema : Json} (hsplit : m.fields = before ++ f :: after)
    (hlast : ∀ g ∈ after, g.jsonName ≠ f.jsonName) (hlength : before.length = first.length)
    (keys : List String) :
    (m.shell (first ++ schema :: rest)).at? ("properties" :: f.jsonName :: keys) =
      schema.at? keys := by
  have hproperties : (m.shell (first ++ schema :: rest)).get? "properties" =
      some (.obj (Members.putAll [] ((m.fields.map (·.jsonName)).zip (first ++ schema :: rest)))) :=
    rfl
  rw [Json.at?_cons hproperties, MessageType.zip_jsonNames hsplit hlength]
  exact Json.at?_cons (Members.get?_putAll_last (jsonName_not_mem_zip hlast))

end Split

/-- The value is the schema of a message with all its fields. -/
structure Json.IsShellOf (value : Json) (m : MessageType) : Prop where
  dialect : value.get? "$schema" = some (.str dialect)
  title : value.get? "title" = some (.str m.name)
  closed : value.get? "additionalProperties" = some (.bool false)
  properties : ∃ members, value.get? "properties" = some (.obj members) ∧
    (members.map Prod.fst).Nodup ∧
    ∀ name, name ∈ members.map Prod.fst ↔ ∃ f ∈ m.fields, f.jsonName = name

/-- The keywords that tell the schema of a message with all its fields. -/
def shellKeys : List String := ["$schema", "title", "additionalProperties", "properties"]

/-- A value with these keywords is the schema of the same message. -/
theorem Json.IsShellOf.of_get? {value other : Json} {m : MessageType} (h : value.IsShellOf m)
    (heq : ∀ key ∈ shellKeys, other.get? key = value.get? key) : other.IsShellOf m where
  dialect := by rw [heq _ (by decide), h.dialect]
  title := by rw [heq _ (by decide), h.title]
  closed := by rw [heq _ (by decide), h.closed]
  properties := by
    rw [heq _ (by decide)]
    exact h.properties

theorem MessageType.isShellOf_shell (m : MessageType) {schemas : List Json}
    (hlength : m.fields.length = schemas.length) : (m.shell schemas).IsShellOf m where
  dialect := rfl
  title := rfl
  closed := rfl
  properties := by
    have hempty : (([] : Members).map Prod.fst).Nodup := List.nodup_nil
    have hle : (m.fields.map (·.jsonName)).length ≤ schemas.length := by
      rw [List.length_map]
      exact Nat.le_of_eq hlength
    refine ⟨_, rfl, Members.nodup_keys_putAll hempty, fun name => ?_⟩
    rw [Members.mem_keys_putAll, List.map_fst_zip hle]
    simp only [List.map_nil, List.not_mem_nil, false_or, List.mem_map]

/-- A message that is not being expanded is written out with all its fields. -/
theorem MessageType.isShellOf_worn_shell (m : MessageType) {schemas : List Json}
    (hlength : m.fields.length = schemas.length) (f : Field) :
    (f.worn (m.shell schemas)).IsShellOf m := by
  have hother : ∀ key ∈ shellKeys, key ∉ ["description", "type", "oneOf"] := by decide
  exact (m.isShellOf_shell hlength).of_get? fun key hkey => f.get?_worn _ (hother key hkey)

theorem Field.not_isShellOf_cut (f : Field) (m : MessageType) : ¬ f.cut.IsShellOf m := by
  intro h
  have hdialect := h.dialect
  rw [← f.worn_bareObject, f.get?_worn _ (by decide)] at hdialect
  cases hdialect

namespace DescriptorSet

variable {set : DescriptorSet}

/-! ## Routes -/

/-- The fields that lead from a message to another, and the messages that are passed; each field is
the last of its name. -/
inductive Route (set : DescriptorSet) :
    MessageType → List MessageType → List Field → MessageType → Prop
  | last {m n : MessageType} {f : Field} (named : m.LastNamed f) (refers : set.RefersTo f n) :
      Route set m [m] [f] n
  | cons {m k n : MessageType} {f : Field} {passed : List MessageType} {fields : List Field}
      (named : m.LastNamed f) (refers : set.RefersTo f k) (rest : Route set k passed fields n) :
      Route set m (m :: passed) (f :: fields) n

theorem Route.mem {m n : MessageType} {passed : List MessageType} {fields : List Field}
    (h : set.Route m passed fields n) : n ∈ set.messages := by
  induction h with
  | last _ refers => exact refers.mem
  | cons _ _ _ ih => exact ih

theorem Route.passed_mem {m n : MessageType} {passed : List MessageType} {fields : List Field}
    (h : set.Route m passed fields n) (hm : m ∈ set.messages) :
    ∀ p ∈ passed, p ∈ set.messages := by
  induction h with
  | last =>
    intro p hp
    obtain rfl := List.mem_singleton.1 hp
    exact hm
  | cons _ refers _ ih =>
    intro p hp
    rcases List.mem_cons.1 hp with rfl | hp
    · exact hm
    · exact ih refers.mem p hp

/-- A route goes on below the value that a leaf has. -/
theorem Route.at?_worn {m n : MessageType} {passed : List MessageType} {fields : List Field}
    (h : set.Route m passed fields n) (f : Field) (schema : Json) :
    (f.worn schema).at? (fields.flatMap (·.position)) =
      schema.at? (fields.flatMap (·.position)) := by
  have hkey : (f.worn schema).get? "properties" = schema.get? "properties" :=
    f.get?_worn schema (by decide)
  cases h <;>
  · show ((f.worn schema).get? "properties").bind _ = (schema.get? "properties").bind _
    rw [hkey]

end DescriptorSet

/-- The document of a message has the schema of each field that is the last of its name. -/
theorem DescriptorSet.expandMessage_property {set : DescriptorSet} {inside : List String}
    {m : set.Message} {document : Json} (fresh : m.val.fullName ∉ inside)
    (h : set.expandMessage inside m = .ok document) {f : Field} (named : m.val.LastNamed f) :
    ∃ schema, set.expandField (m.val.fullName :: inside) f = .ok schema ∧
      ∀ keys, document.at? ("properties" :: f.jsonName :: keys) = schema.at? keys := by
  obtain ⟨before, after, hsplit, hlast⟩ := named
  obtain ⟨schemas, hschemas, rfl⟩ := (expandMessage_eq_ok_iff fresh).1 h
  rw [hsplit] at hschemas
  obtain ⟨first, schema, rest, rfl, hfirst, hf, -⟩ := forall₂_split hschemas
  exact ⟨schema, hf, MessageType.shell_at? hsplit hlast hfirst.length_eq⟩

namespace Pool

open DescriptorSet

variable (pool : Pool)

/-- The document of a message has the expansion of the message that a field refers to. -/
theorem expandMessage_at_field {inside : List String} {m : pool.set.Message} {document : Json}
    (fresh : m.val.fullName ∉ inside) (h : pool.set.expandMessage inside m = .ok document)
    {f : Field} {n : MessageType} (named : m.val.LastNamed f) (refers : pool.set.RefersTo f n) :
    ∃ schema, pool.set.expandMessage (m.val.fullName :: inside) ⟨n, refers.mem⟩ = .ok schema ∧
      document.at? f.position = some (f.leaf.worn schema) := by
  have hwf := pool.wellFormed m.property named.mem
  obtain ⟨schema, hf, hat⟩ := expandMessage_property fresh h named
  rw [expandField_of_refersTo hwf refers] at hf
  cases hx : pool.set.expandMessage (m.val.fullName :: inside) ⟨n, refers.mem⟩ with
  | error e => rw [hx] at hf; cases hf
  | ok inner =>
    rw [hx] at hf
    cases hf
    refine ⟨inner, rfl, ?_⟩
    rw [Field.position, hat]
    exact Field.at?_assemble_message hwf refers.1 refers.2.1 inner

/-- At the end of a route the document has the last message as it is inside the messages passed. -/
theorem expandMessage_at_route {m n : MessageType} {passed : List MessageType}
    {fields : List Field} (route : pool.set.Route m passed fields n) :
    ∀ {inside : List String} {document : Json} (hm : m ∈ pool.set.messages),
      (∀ p ∈ passed, p.fullName ∉ inside) → passed.Nodup →
      pool.set.expandMessage inside ⟨m, hm⟩ = .ok document →
      ∃ f schema, fields.getLast? = some f ∧
        pool.set.expandMessage ((passed.map (·.fullName)).reverse ++ inside) ⟨n, route.mem⟩ =
          .ok schema ∧
        document.at? (fields.flatMap (·.position)) = some (f.leaf.worn schema) := by
  induction route with
  | @last m n f named refers =>
    intro inside document hm hout _ h
    obtain ⟨schema, hschema, hat⟩ :=
      pool.expandMessage_at_field (hout m List.mem_cons_self) h named refers
    refine ⟨f, schema, rfl, hschema, ?_⟩
    rwa [List.flatMap_singleton]
  | @cons m k n f passed fields named refers rest ih =>
    intro inside document hm hout hnodup h
    obtain ⟨hnew, hnodup⟩ := List.nodup_cons.1 hnodup
    obtain ⟨middle, hmiddle, hat⟩ :=
      pool.expandMessage_at_field (hout m List.mem_cons_self) h named refers
    -- what is passed further on is neither `m` nor inside
    have hout' : ∀ p ∈ passed, p.fullName ∉ m.fullName :: inside := fun p hp hin => by
      rcases List.mem_cons.1 hin with hname | hin
      · have hpm := pool.eq_of_fullName_eq (rest.passed_mem refers.mem p hp) hm hname
        exact hnew (hpm ▸ hp)
      · exact hout p (List.mem_cons_of_mem _ hp) hin
    obtain ⟨g, schema, hg, hschema, hrest⟩ := ih refers.mem hout' hnodup hmiddle
    refine ⟨g, schema, ?_, ?_, ?_⟩
    · rw [List.getLast?_cons, hg]; rfl
    · rw [List.map_cons, List.reverse_cons, List.append_assoc, List.singleton_append]
      exact hschema
    · rw [List.flatMap_cons, Json.at?_append, hat, Option.bind_some, rest.at?_worn, hrest]

/-- **A message is cut exactly where it was passed before.** At the end of a route the document has
the last message with all its fields if it was not passed on the way, and a bare object if it was;
both with no more than the leaf of the last field adds. -/
theorem schemaOf_at_route {m : pool.set.Message} {document : Json}
    (h : pool.schemaOf m = .ok document) {passed : List MessageType} {fields : List Field}
    {n : MessageType} (route : pool.set.Route m.val passed fields n) (distinct : passed.Nodup) :
    ∃ f value, fields.getLast? = some f ∧
      document.at? (fields.flatMap (·.position)) = some value ∧
      (value.IsShellOf n ↔ n ∉ passed) ∧ (value = f.leaf.cut ↔ n ∈ passed) := by
  obtain ⟨f, schema, hf, hschema, hat⟩ := pool.expandMessage_at_route route m.property
    (fun _ _ => List.not_mem_nil) distinct h
  rw [List.append_nil] at hschema
  refine ⟨f, _, hf, hat, ?_⟩
  by_cases hn : n ∈ passed
  · have hname : n.fullName ∈ (passed.map (·.fullName)).reverse :=
      List.mem_reverse.2 (List.mem_map_of_mem hn)
    rw [expandMessage_of_mem (m := ⟨n, route.mem⟩) hname] at hschema
    cases hschema
    rw [f.leaf.worn_bareObject]
    exact ⟨⟨fun hshell => absurd hshell (f.leaf.not_isShellOf_cut n), fun hout => absurd hn hout⟩,
      fun _ => hn, fun _ => rfl⟩
  · have hname : n.fullName ∉ (passed.map (·.fullName)).reverse := fun hin => by
      obtain ⟨p, hp, hpn⟩ := List.mem_map.1 (List.mem_reverse.1 hin)
      have hmem := route.passed_mem m.property p hp
      exact hn (pool.eq_of_fullName_eq hmem route.mem hpn ▸ hp)
    obtain ⟨schemas, hschemas, rfl⟩ :=
      (expandMessage_eq_ok_iff (m := ⟨n, route.mem⟩) hname).1 hschema
    have hshell := n.isShellOf_worn_shell hschemas.length_eq f.leaf
    exact ⟨⟨fun _ => hn, fun _ => hshell⟩,
      fun hcut => absurd (hcut ▸ hshell) (f.leaf.not_isShellOf_cut n), fun hin => absurd hin hn⟩

/-- The edges of a node. -/
def outEdges : Field where
  name := "out_edges"
  kind := .message
  cardinality := .repeated
  typeName? := some "graph.Edge"

/-- The nodes of an edge, under two names each. -/
def ends : Field := .mapOf "ends" (.mapOf "end" (.ofType "node" .message ".graph.Node"))

def nodeType : MessageType where
  declaredName := "graph.Node"
  fields := [outEdges]

def edgeType : MessageType where
  declaredName := "graph.Edge"
  fields := [ends]

/-- A pool in which a message comes back to itself through a list and maps of maps. -/
def graph : Pool where
  set := { messages := [nodeType, edgeType] }
  sound := by decide

theorem graph_at_route :
    ∃ node : graph.set.Message, ∃ document, graph.schemaOf node = .ok document ∧
      (∃ value, document.at? ["properties", "outEdges", "items"] = some value ∧
        value.IsShellOf edgeType) ∧
      document.at? ["properties", "outEdges", "items", "properties", "ends",
        "additionalProperties", "additionalProperties"] = some bareObject := by
  have hnode : nodeType ∈ graph.set.messages := .head _
  have hedge : edgeType ∈ graph.set.messages := .tail _ (.head _)
  have houtRefers : graph.set.RefersTo outEdges edgeType := ⟨rfl, by decide, rfl⟩
  have hendsRefers : graph.set.RefersTo ends nodeType := ⟨rfl, by decide, rfl⟩
  have houtNamed : nodeType.LastNamed outEdges :=
    ⟨[], [], rfl, fun _ h => absurd h List.not_mem_nil⟩
  have hendsNamed : edgeType.LastNamed ends :=
    ⟨[], [], rfl, fun _ h => absurd h List.not_mem_nil⟩
  have hnew : edgeType.fullName ∉ [nodeType.fullName] := by decide
  have hinside : nodeType.fullName ∈ [edgeType.fullName, nodeType.fullName] := by decide
  have hends : ∃ schema, graph.set.expandField [edgeType.fullName, nodeType.fullName] ends =
      .ok schema := by
    rw [expandField_of_refersTo (graph.wellFormed hedge hendsNamed.mem) hendsRefers,
      expandMessage_of_mem hinside]
    exact ⟨_, rfl⟩
  obtain ⟨endsSchema, hends⟩ := hends
  have hout : ∃ schema, graph.set.expandField [nodeType.fullName] outEdges = .ok schema := by
    have hedgeSchema := (expandMessage_eq_ok_iff (m := ⟨edgeType, hedge⟩) hnew).2
      ⟨[endsSchema], .cons hends .nil, rfl⟩
    rw [expandField_of_refersTo (graph.wellFormed hnode houtNamed.mem) houtRefers, hedgeSchema]
    exact ⟨_, rfl⟩
  obtain ⟨outSchema, hout⟩ := hout
  have hdocument : graph.schemaOf ⟨nodeType, hnode⟩ = .ok (nodeType.shell [outSchema]) :=
    (expandMessage_eq_ok_iff (m := ⟨nodeType, hnode⟩) List.not_mem_nil).2
      ⟨[outSchema], .cons hout .nil, rfl⟩
  have hdistinct : nodeType ≠ edgeType := fun h =>
    absurd (congrArg MessageType.declaredName h) (by decide)
  refine ⟨_, _, hdocument, ?_, ?_⟩
  · obtain ⟨_, value, -, hat, hshell, -⟩ := graph.schemaOf_at_route hdocument
      (.last houtNamed houtRefers) (List.nodup_singleton _)
    exact ⟨value, hat, hshell.2 fun h => hdistinct (List.mem_singleton.1 h).symm⟩
  · obtain ⟨f, value, hf, hat, -, hcut⟩ := graph.schemaOf_at_route hdocument
      (.cons houtNamed houtRefers (.last hendsNamed hendsRefers))
      (List.nodup_cons.2 ⟨fun h => hdistinct (List.mem_singleton.1 h), List.nodup_singleton _⟩)
    cases hf
    rw [hcut.2 (.head _)] at hat
    exact hat

end Pool

end MessageSchema
