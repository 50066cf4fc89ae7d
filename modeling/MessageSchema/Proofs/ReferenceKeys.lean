import MessageSchema.Descriptor.Construction
import MessageSchema.Proofs.Failure
import MessageSchema.Proofs.Flaws
import MessageSchema.Proofs.Occurrence
import MessageSchema.Proofs.Position

/-!
# Where a schema says `$ref`

Generated schemas have no references. An object with the key `$ref` still stands in a schema where a
field has that JSON name: the properties of its message have the key then, and nothing else has it
(`Json.NamesRefs`). This property of a schema is kept by whatever is put around schemas of values
(`NamesRefs.assemble`), and so it holds of every expansion (`namesRefs_expandMessage`). Conversely a
message that is reached is written out somewhere, with the names of all its fields
(`containsRef_of_reaches`). Together that says when a schema mentions `$ref`, and where
(`reference_keys`).
-/

namespace MessageSchema

open Json

/-! ## Names of properties -/

/-- The value is the properties of the schema of a message in `R`. -/
def Json.PropertiesOf (R : MessageType → Prop) (parent value : Json) : Prop :=
  parent.get? "properties" = some value ∧ ∃ n, R n ∧ parent.IsShellOf n

/-- Below the document an object has the key `$ref` only as the properties of a message in `R`. -/
def Json.NamesRefsBelow (R : MessageType → Prop) (document : Json) : Prop :=
  ∀ place members, place ≠ .root → document.Stands place (.obj members) →
    "$ref" ∈ members.map Prod.fst →
      ∃ parent, place = .member parent "properties" ∧ PropertiesOf R parent (.obj members)

/-- In the document an object has the key `$ref` only as the properties of a message in `R`. -/
def Json.NamesRefs (R : MessageType → Prop) (document : Json) : Prop :=
  (∀ members, document = .obj members → "$ref" ∉ members.map Prod.fst) ∧ document.NamesRefsBelow R

namespace Json

variable {R : MessageType → Prop} {schema value : Json} {key : String} {members : Members}

theorem PropertiesOf.put (h : PropertiesOf R (.obj members) value) {added : Json}
    (hkey : key ∉ shellKeys) : PropertiesOf R (.obj (members.put key added)) value := by
  have heq : ∀ other ∈ shellKeys, (obj (members.put key added)).get? other =
      (obj members).get? other := fun other hother =>
    Members.get?_put_of_ne fun hsame => hkey (hsame ▸ hother)
  obtain ⟨hproperties, n, hn, hshell⟩ := h
  exact ⟨(heq _ (by decide)).trans hproperties, n, hn, hshell.of_get? heq⟩

namespace NamesRefs

theorem of_closed (h : schema.containsRef = false) : schema.NamesRefs R := by
  constructor
  · rintro members rfl
    exact Stands.key_not_mem .root h
  · intro place members _ hstands hkey
    exact absurd hkey (hstands.key_not_mem h)

theorem properties_of_stands (h : schema.NamesRefs R) {place : Place}
    (hstands : schema.Stands place (.obj members)) (hkey : "$ref" ∈ members.map Prod.fst) :
    ∃ parent, place = .member parent "properties" ∧ PropertiesOf R parent (.obj members) := by
  by_cases hplace : place = .root
  · subst hplace
    exact absurd hkey (h.1 members hstands.eq_of_root.symm)
  · exact h.2 place members hplace hstands hkey

theorem of_hasOnly (h : schema.HasOnly (· ≠ .reference)) : schema.NamesRefs R := by
  refine of_closed (Bool.eq_false_iff.2 fun href => ?_)
  exact h.reference href rfl

end NamesRefs

/-- What stands below is said of each child: it is the properties of a message, or has the key only
in names of properties. -/
theorem namesRefsBelow_iff : schema.NamesRefsBelow R ↔ ∀ place value,
    (place, value) ∈ schema.children → value.NamesRefsBelow R ∧
      (value.NamesRefs R ∨
        ∃ parent, place = .member parent "properties" ∧ PropertiesOf R parent value) := by
  constructor
  · intro h place value hin
    have hbelow : value.NamesRefsBelow R := fun lower members hlower hstands hkey =>
      h lower members hlower (.of_child hin hstands hlower) hkey
    refine ⟨hbelow, ?_⟩
    by_cases hown : ∃ members, value = .obj members ∧ "$ref" ∈ members.map Prod.fst
    · obtain ⟨members, rfl, hkey⟩ := hown
      exact .inr (h place members (ne_root_of_mem_children hin) (.child .root hin) hkey)
    · exact .inl ⟨fun members hobj hkey => hown ⟨members, hobj, hkey⟩, hbelow⟩
  · intro h place members hplace hstands hkey
    rcases hstands.cases_children with ⟨hroot, -⟩ | hin | ⟨child, hin, -, hbelow⟩
    · exact absurd hroot hplace
    · obtain ⟨-, hnames | hproperties⟩ := h _ _ hin
      · exact absurd hkey (hnames.1 members rfl)
      · exact hproperties
    · exact (h _ _ hin).1 place members hplace hbelow hkey

theorem namesRefs_obj_iff : (obj members).NamesRefs R ↔ "$ref" ∉ members.map Prod.fst ∧
    ∀ entry ∈ members, entry.2.NamesRefsBelow R ∧
      (entry.2.NamesRefs R ∨
        entry.1 = "properties" ∧ PropertiesOf R (.obj members) entry.2) := by
  unfold NamesRefs
  rw [namesRefsBelow_iff]
  constructor
  · rintro ⟨hown, hchildren⟩
    refine ⟨hown members rfl, fun entry hin => ?_⟩
    obtain ⟨hbelow, hchild⟩ := hchildren _ _ (mem_children_obj.2 ⟨entry.1, rfl, hin⟩)
    refine ⟨hbelow, hchild.imp_right ?_⟩
    rintro ⟨parent, hplace, hproperties⟩
    obtain ⟨rfl, hname⟩ := Place.member.inj hplace
    exact ⟨hname, hproperties⟩
  · rintro ⟨hown, hentries⟩
    refine ⟨fun other hobj => ?_, fun place value hin => ?_⟩
    · cases hobj
      exact hown
    · obtain ⟨key, rfl, hentry⟩ := mem_children_obj.1 hin
      obtain ⟨hbelow, hentry⟩ := hentries _ hentry
      refine ⟨hbelow, hentry.imp_right ?_⟩
      rintro ⟨rfl, hproperties⟩
      exact ⟨_, rfl, hproperties⟩

theorem namesRefs_arr_iff {items : List Json} :
    (arr items).NamesRefs R ↔ ∀ item ∈ items, item.NamesRefs R := by
  unfold NamesRefs
  rw [namesRefsBelow_iff]
  constructor
  · rintro ⟨-, hchildren⟩ item hin
    obtain ⟨-, hnames | ⟨parent, hplace, -⟩⟩ := hchildren _ _ (mem_children_arr.2 ⟨rfl, hin⟩)
    · exact hnames
    · cases hplace
  · intro hitems
    refine ⟨(fun _ hobj => by cases hobj), fun place value hin => ?_⟩
    obtain ⟨-, hitem⟩ := mem_children_arr.1 hin
    have hnames := hitems value hitem
    exact ⟨hnames.2, .inl hnames⟩

namespace NamesRefs

theorem of_entries (hkey : "$ref" ∉ members.map Prod.fst)
    (h : ∀ entry ∈ members, entry.2.NamesRefs R) : (obj members).NamesRefs R :=
  namesRefs_obj_iff.2 ⟨hkey, fun entry hin => ⟨(h entry hin).2, .inl (h entry hin)⟩⟩

/-! ## What is put into a schema -/

theorem put (h : schema.NamesRefs R) (hv : value.NamesRefs R) (hkey : key ∉ "$ref" :: shellKeys) :
    (schema.put key value).NamesRefs R := by
  rw [List.mem_cons, not_or] at hkey
  obtain ⟨href, hshell⟩ := hkey
  cases schema with
  | obj members =>
    obtain ⟨hown, hentries⟩ := namesRefs_obj_iff.1 h
    refine namesRefs_obj_iff.2 ⟨fun hin => ?_, fun entry hin => ?_⟩
    · rcases Members.mem_keys_put.1 hin with hsame | hin
      · exact href hsame.symm
      · exact hown hin
    · rcases Members.mem_put hin with hin | rfl
      · obtain ⟨hbelow, hentry⟩ := hentries entry hin
        exact ⟨hbelow, hentry.imp_right fun ⟨hname, hproperties⟩ => ⟨hname, hproperties.put hshell⟩⟩
      · exact ⟨hv.2, .inl hv⟩
  | _ => exact h

theorem putAll {added : Members} (h : schema.NamesRefs R)
    (ha : ∀ entry ∈ added, entry.1 ∉ "$ref" :: shellKeys ∧ entry.2.NamesRefs R) :
    (schema.putAll added).NamesRefs R := by
  induction added generalizing schema with
  | nil => rwa [putAll_nil]
  | cons entry rest ih =>
    obtain ⟨hkey, hvalue⟩ := ha entry List.mem_cons_self
    have hput := ih (h.put hvalue hkey) fun other hin => ha other (List.mem_cons_of_mem _ hin)
    cases schema <;> exact hput

/-- Keywords of rules are put in. -/
theorem putAll_of_hasOnly {added : Members} (h : schema.NamesRefs R)
    (ha : added.HasOnly (· ≠ .reference)) {keys : List String} (hsub : added.map Prod.fst ⊆ keys)
    (hkeys : ∀ key ∈ keys, key ∉ shellKeys) : (schema.putAll added).NamesRefs R := by
  refine h.putAll fun entry hin => ?_
  have hentry := ha entry hin
  refine ⟨fun hkey => ?_, of_closed (Bool.eq_false_iff.2 fun href => hentry.closed href rfl)⟩
  rcases List.mem_cons.1 hkey with href | hshell
  · exact hentry.usual (href ▸ List.mem_cons_self)
  · exact hkeys _ (hsub (List.mem_map_of_mem hin)) hshell

theorem withDescription {description : Option String} (h : schema.NamesRefs R) :
    (schema.withDescription description).NamesRefs R := by
  unfold Json.withDescription
  split
  · split
    · exact h
    · exact h.put (of_closed rfl) (by decide)
  · exact h

theorem withRules {rules : FieldRules} {kind : Kind} {enum : Option EnumType}
    (h : schema.NamesRefs R) : (schema.withRules rules kind enum).NamesRefs R := by
  have hkeys : ∀ key ∈ kind.ruleKeys, key ∉ shellKeys := by cases kind <;> decide
  refine h.putAll_of_hasOnly
    (rules.hasOnly_keywords PatternSyntax.takesGenerated kind enum fun fault hflaw => ?_)
    (rules.keys_subset kind enum) hkeys
  cases hflaw <;> rintro ⟨⟩

theorem withRepeatedRules {ρ : Type} {rules : Option (RepeatedRules ρ)} (h : schema.NamesRefs R) :
    (schema.withRepeatedRules rules).NamesRefs R :=
  h.putAll_of_hasOnly (hasOnly_elim fun own _ => own.hasOnly_keywords)
    (keys_elim_subset fun own => own.keys_subset) (by decide)

theorem withMapRules {ρ : Type} {rules : Option (MapRules ρ)} (h : schema.NamesRefs R) :
    (schema.withMapRules rules).NamesRefs R :=
  h.putAll_of_hasOnly (hasOnly_elim fun own _ => own.hasOnly_keywords)
    (keys_elim_subset fun own => own.keys_subset) (by decide)

theorem get? (h : schema.NamesRefs R) (hkey : key ≠ "properties")
    (hvalue : schema.get? key = some value) : value.NamesRefs R := by
  cases schema with
  | obj members =>
    obtain ⟨-, hentries⟩ := namesRefs_obj_iff.1 h
    obtain ⟨-, hnames | ⟨hname, -⟩⟩ := hentries _ (Members.mem_of_get? hvalue)
    · exact hnames
    · exact absurd hname hkey
  | _ => cases hvalue

theorem change {f : Json → Json} (h : schema.NamesRefs R) (hkey : key ∉ "$ref" :: shellKeys)
    (hf : ∀ old : Json, old.NamesRefs R → (f old).NamesRefs R) :
    (schema.change key f).NamesRefs R := by
  have hproperties : key ≠ "properties" := fun heq => hkey (heq ▸ by decide)
  unfold Json.change
  split
  · next old hold => exact h.put (hf old (h.get? hproperties hold)) hkey
  · exact h

theorem concat {items : List Json} (h : (arr items).NamesRefs R) (hv : value.NamesRefs R) :
    (arr (items ++ [value])).NamesRefs R := by
  refine namesRefs_arr_iff.2 fun item hin => ?_
  rcases List.mem_append.1 hin with hin | hin
  · exact namesRefs_arr_iff.1 h item hin
  · rwa [List.mem_singleton.1 hin]

theorem orNull (h : schema.NamesRefs R) : schema.orNull.NamesRefs R := by
  refine (h.change (by decide) fun old hold => ?_).change (by decide) fun old hold => ?_
  · unfold Json.typeOrNull
    split
    · exact of_closed (containsRef_strings _)
    · split
      · exact hold
      · exact hold.concat (of_closed rfl)
    · exact hold
  · unfold Json.branchesOrNull
    split
    · split
      · exact hold
      · exact hold.concat (of_closed (by decide))
    · exact hold

/-! ## Fields and messages -/

section Fields

variable {set : DescriptorSet} {f : Field}

theorem singleSchema (h : schema.NamesRefs R) : (f.singleSchema set schema).NamesRefs R := by
  have hdescribed : (schema.withDescription f.description).NamesRefs R := h.withDescription
  unfold Field.singleSchema
  cases f.rules with
  | none =>
    simp only [Option.elim_none]
    split
    · exact hdescribed.orNull
    · exact hdescribed
  | some rules =>
    simp only [Option.elim_some]
    split
    · exact hdescribed.withRules.orNull
    · exact hdescribed.withRules

theorem listSchema (h : schema.NamesRefs R) : (f.listSchema set schema).NamesRefs R := by
  have hlist : ∀ items : Json, items.NamesRefs R →
      (Json.obj [("type", .strings ["array", "null"]), ("items", items)]).NamesRefs R := by
    intro items hitems
    have htypes : (Json.strings ["array", "null"]).NamesRefs R := of_closed (containsRef_strings _)
    refine of_entries (show "$ref" ∉ ["type", "items"] by decide) ?_
    exact List.forall_mem_cons.2 ⟨htypes, List.forall_mem_singleton.2 hitems⟩
  unfold Field.listSchema
  refine (NamesRefs.withDescription (hlist _ ?_)).withRepeatedRules
  split
  · exact h.withRules
  · exact h

theorem mapSchema {value : Field} (h : schema.NamesRefs R) :
    (f.mapSchema set value schema).NamesRefs R := by
  have hmap : ∀ values : Json, values.NamesRefs R →
      (Json.obj [("type", .str "object"), ("additionalProperties", values)]).NamesRefs R := by
    intro values hvalues
    refine of_entries (show "$ref" ∉ ["type", "additionalProperties"] by decide) ?_
    exact List.forall_mem_cons.2 ⟨of_closed rfl, List.forall_mem_singleton.2 hvalues⟩
  unfold Field.mapSchema
  refine (NamesRefs.withDescription (hmap _ ?_)).withMapRules
  split
  · exact h.withRules
  · exact h

theorem assemble (hf : set.WellFormed f) (h : schema.NamesRefs R) :
    (f.assemble set schema).NamesRefs R := by
  induction hf with
  | map _ layer values _ ih =>
    rw [Field.assemble_of_map layer values]
    exact ih.mapSchema
  | leaf _ single _ =>
    rw [Field.assemble_of_not_map single, Field.dress]
    split
    · exact h.listSchema
    · split
      · exact h
      · exact h.singleSchema

end Fields

/-- In the schema of a message in `R` the properties may have the key. -/
theorem shell {m : MessageType} (hm : R m) {schemas : List Json}
    (h : List.Forall₂ (fun _ schema => schema.NamesRefs R) m.fields schemas) :
    (m.shell schemas).NamesRefs R := by
  have hbelow : (Json.obj (Members.putAll [] ((m.fields.map (·.jsonName)).zip
      schemas))).NamesRefsBelow R := by
    refine namesRefsBelow_iff.2 fun place value hin => ?_
    obtain ⟨name, -, hentry⟩ := mem_children_obj.1 hin
    rcases Members.mem_putAll hentry with hnone | hzip
    · cases hnone
    · have hnames : List.Forall₂ (fun _ schema => schema.NamesRefs R) (m.fields.map (·.jsonName))
          schemas := List.forall₂_map_left_iff.2 h
      have hvalue := List.forall₂_zip hnames hzip
      exact ⟨hvalue.2, .inl hvalue⟩
  have hclosed : ∀ {name : String} {value : Json}, value.containsRef = false →
      value.NamesRefsBelow R ∧
        (value.NamesRefs R ∨ name = "properties" ∧ PropertiesOf R (m.shell schemas) value) :=
    fun href => ⟨(of_closed href).2, .inl (of_closed href)⟩
  refine namesRefs_obj_iff.2 ⟨fun hin => ?_, fun entry hin => ?_⟩
  · exact absurd (m.keys_shell_subset rfl hin) (by decide)
  · rcases List.mem_append.1 hin with hin | hin
    · simp only [List.mem_cons, List.not_mem_nil, or_false] at hin
      rcases hin with rfl | rfl | rfl | rfl | rfl
      · exact hclosed rfl
      · exact hclosed rfl
      · exact hclosed rfl
      · exact ⟨hbelow, .inr ⟨rfl, rfl, m, hm, m.isShellOf_shell h.length_eq⟩⟩
      · exact hclosed rfl
    · obtain ⟨-, rfl⟩ := mem_listed hin
      exact hclosed (containsRef_strings _)

end NamesRefs

end Json

open DescriptorSet

namespace Pool

variable (pool : Pool)

/-- Inside any messages, the expansion of a message that `root` reaches has the key `$ref` only in
names of properties of such messages. -/
theorem namesRefs_expandMessage (root : MessageType) (inside : List String) (m : pool.set.Message) :
    pool.set.Reaches root m.val → ∀ {schema}, pool.set.expandMessage inside m = .ok schema →
      schema.NamesRefs (pool.set.Reaches root) := by
  induction inside, m using expansion_induction with
  | step inside m ih =>
    intro hreach schema hschema
    by_cases hm : m.val.fullName ∈ inside
    · rw [expandMessage_of_mem hm] at hschema
      cases hschema
      exact .of_closed (by decide)
    obtain ⟨schemas, hschemas, rfl⟩ := (expandMessage_eq_ok_iff hm).1 hschema
    have hfields := (List.forall₂_and_left _ _).2 ⟨fun f (hf : f ∈ m.val.fields) => hf, hschemas⟩
    refine .shell hreach (hfields.imp fun f schema ⟨hf, hfield⟩ => ?_)
    have hwf := pool.wellFormed m.property hf
    obtain ⟨value, rfl, ⟨type, -, rfl⟩ | ⟨n, refers, hn⟩ | hfragment⟩ :=
      exists_value_of_expandField hwf hfield
    · exact .assemble hwf (.of_hasOnly (type.hasOnly_schema PatternSyntax.takesGenerated))
    · exact .assemble hwf (ih hm ⟨n, refers.mem⟩ (hreach.tail ⟨f, hf, refers⟩) hn)
    · exact .assemble hwf (.of_hasOnly (hasOnly_fragment PatternSyntax.takesGenerated hfragment).1)

/-! ## Messages that are reached -/

theorem mentions_of_at? {key : String} {value inner : Json} {keys : List String}
    (hat : value.at? keys = some inner) (h : inner.mentions key = true) :
    value.mentions key = true := by
  induction keys generalizing value with
  | nil =>
    cases hat
    exact h
  | cons name rest ih =>
    obtain ⟨below, hbelow, hrest⟩ := Option.bind_eq_some_iff.1 hat
    exact mentions_of_get? hbelow (ih hrest)

/-- Where no two fields of a message have one JSON name, an expansion mentions `$ref` among its
properties if it reaches, without entering `inside`, a message with a field of that name. -/
theorem containsRef_of_reaches
    (hnames : ∀ k ∈ pool.set.messages, (k.fields.map (·.jsonName)).Nodup)
    (inside : List String) (m : pool.set.Message) : m.val.fullName ∉ inside →
      ∀ document, pool.set.expandMessage inside m = .ok document →
      ∀ n, Relation.ReflTransGen (pool.set.StepOutside inside) m.val n →
      (∃ f ∈ n.fields, f.jsonName = "$ref") →
        ∃ properties, document.get? "properties" = some properties ∧
          properties.containsRef = true := by
  induction inside, m using expansion_induction with
  | step inside m ih =>
    rintro fresh document hdocument n hn ⟨f, hf, hname⟩
    rcases pool.eq_or_step_outside m.property hn with rfl | ⟨k, ⟨⟨g, hg, refers⟩, hout⟩, hkn⟩
    · obtain ⟨schemas, hschemas, rfl⟩ := (expandMessage_eq_ok_iff fresh).1 hdocument
      obtain ⟨members, hmembers, -, hkeys⟩ := (m.val.isShellOf_shell hschemas.length_eq).properties
      exact ⟨_, hmembers, mentions_of_key_mem ((hkeys _).2 ⟨f, hf, hname⟩)⟩
    · -- the message that leads on is written out under a key of the properties
      have named := MessageType.lastNamed_of_nodup (hnames m.val m.property) hg
      obtain ⟨schema, hschema, hat⟩ := pool.expandMessage_at_field fresh hdocument named refers
      obtain ⟨below, hbelow, href⟩ :=
        ih fresh ⟨k, refers.mem⟩ hout schema hschema n hkn ⟨f, hf, hname⟩
      have hworn : (g.leaf.worn schema).get? "properties" = some below :=
        (g.leaf.get?_worn schema (by decide)).trans hbelow
      obtain ⟨properties, hproperties, hrest⟩ := Option.bind_eq_some_iff.1 hat
      exact ⟨properties, hproperties, mentions_of_at? hrest (mentions_of_get? hworn href)⟩

/-- **`$ref` stands in a schema only among the names of properties.** A schema mentions it only if a
message that can be reached has a field of that JSON name, and where no message has two fields with
one name, always then. Every object with that key is the properties of the schema of a message that
can be reached. -/
theorem reference_keys {m : pool.set.Message} {schema : Json} (h : pool.schemaOf m = .ok schema) :
    (schema.containsRef = true →
      ∃ n, pool.set.Reaches m.val n ∧ ∃ f ∈ n.fields, f.jsonName = "$ref") ∧
    ((∀ k ∈ pool.set.messages, (k.fields.map (·.jsonName)).Nodup) →
      (∃ n, pool.set.Reaches m.val n ∧ ∃ f ∈ n.fields, f.jsonName = "$ref") →
        schema.containsRef = true) ∧
    ∀ place members, schema.Stands place (.obj members) → "$ref" ∈ members.map Prod.fst →
      ∃ parent n, place = .member parent "properties" ∧
        parent.get? "properties" = some (.obj members) ∧
        pool.set.Reaches m.val n ∧ parent.IsShellOf n := by
  refine ⟨fun href => ?_, fun hnames hfound => ?_, fun place members hstands hkey => ?_⟩
  · obtain ⟨hhas, -⟩ := pool.hasOnly_expandMessage PatternSyntax.takesGenerated m.val [] m .refl h
    obtain ⟨n, hreach, hflaw⟩ := hhas.reference href
    cases hflaw with
    | reference hf hname => exact ⟨n, hreach, _, hf, hname⟩
    | rule _ _ hrule => cases hrule
  · obtain ⟨n, hreach, hfield⟩ := hfound
    obtain ⟨properties, hproperties, href⟩ :=
      pool.containsRef_of_reaches hnames [] m List.not_mem_nil schema h n hreach.outside hfield
    exact mentions_of_get? hproperties href
  · obtain ⟨parent, hplace, hproperties, n, hn, hshell⟩ :=
      (pool.namesRefs_expandMessage m.val [] m .refl h).properties_of_stands hstands hkey
    exact ⟨parent, n, hplace, hproperties, hn, hshell⟩

/-- A link to what it is about. -/
def linkType : MessageType :=
  { declaredName := "notes.Link",
    fields := [.withJsonName (.plain "target" .string) "$ref", .ofMessage "note" "notes.Note"] }

/-- A note with its links by name. -/
def noteType : MessageType :=
  { declaredName := "notes.Note",
    fields := [.plain "text" .string, .mapOf "links" (.ofMessage "link" "notes.Link")] }

/-- A pool in which a message further on has a field with the name of a reference. -/
def notes : Pool where
  set := { messages := [noteType, linkType] }
  sound := by decide

theorem notes_reference_keys :
    ∃ note : notes.set.Message, ∃ schema, notes.schemaOf note = .ok schema ∧
      schema.containsRef = true ∧
      ∀ place members, schema.Stands place (.obj members) → "$ref" ∈ members.map Prod.fst →
        ∃ parent n, place = .member parent "properties" ∧ parent.IsShellOf n := by
  let note : notes.set.Message := ⟨noteType, List.mem_cons_self⟩
  obtain ⟨schema, hschema⟩ := notes.exists_schemaOf note (by decide +kernel)
  have hnames : ∀ k ∈ notes.set.messages, (k.fields.map (·.jsonName)).Nodup := by decide
  have hstep : notes.set.Step noteType linkType :=
    ⟨_, .tail _ (.head _), rfl, by decide, rfl⟩
  have href : ∃ f ∈ linkType.fields, f.jsonName = "$ref" := ⟨_, List.mem_cons_self, rfl⟩
  obtain ⟨-, hcontains, hplaces⟩ := notes.reference_keys hschema
  refine ⟨note, schema, hschema, hcontains hnames ⟨linkType, .single hstep, href⟩, ?_⟩
  intro place members hstands hkey
  obtain ⟨parent, n, hplace, -, -, hshell⟩ := hplaces place members hstands hkey
  exact ⟨parent, n, hplace, hshell⟩

end Pool

end MessageSchema
