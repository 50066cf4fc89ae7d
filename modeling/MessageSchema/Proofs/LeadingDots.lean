import MessageSchema.Descriptor.Construction
import MessageSchema.Proofs.Comparison
import MessageSchema.Proofs.Resolution
import MessageSchema.Proofs.Walk
import MessageSchema.Verify.Report

/-!
# One dot in front of names

Names of types may be written with a dot in front. Where none of them is, any of them can be: a set
and the set with dots in front of some of its names are pools or not alike (`offence?_respelled`),
fields that are spelled differently correspond (`corresponds_respelled`), and so every message has
the same schema in both, under either spelling of its name (`respelled_alike`).
-/

namespace MessageSchema

/-! ## Spellings -/

/-- The name begins with a dot. -/
def HasDot (name : String) : Prop := ∃ rest, name.toList = '.' :: rest

instance (name : String) : Decidable (HasDot name) :=
  decidable_of_iff (name.toList.head? = some '.') List.head?_eq_some_iff

/-- The name itself, or the name with a dot in front. -/
def Respelled (name other : String) : Prop := other = name ∨ other = "." ++ name

theorem HasTwoDots.hasDot {name : String} (h : HasTwoDots name) : HasDot name := by
  obtain ⟨rest, hrest⟩ := h
  exact ⟨_, hrest⟩

theorem plainName_of_not_hasDot {name : String} (h : ¬ HasDot name) : plainName name = name :=
  plainName_of_not_dot fun rest hrest => h ⟨rest, hrest⟩

/-- Either spelling of a name is read as the name. -/
theorem Respelled.plainName_eq {name other : String} (h : Respelled name other)
    (hplain : ¬ HasDot name) : plainName other = name := by
  rcases h with rfl | rfl
  · exact plainName_of_not_hasDot hplain
  · have hchars : ("." ++ name).toList = '.' :: name.toList := by
      rw [String.toList_append]
      rfl
    rw [plainName_of_dot hchars, String.ofList_toList]

namespace Field

/-- Dots stand in front of names of types, in the field or in the description of its values. -/
inductive Respelling : Field → Field → Prop
  | plain {f : Field} {typeName? : Option String}
      (name : Option.Rel Respelled f.typeName? typeName?) (values : f.mapValue = none) :
      Respelling f (f.respell typeName? none)
  | nested {f value other : Field} {typeName? : Option String}
      (name : Option.Rel Respelled f.typeName? typeName?) (values : f.mapValue = some value)
      (below : Respelling value other) : Respelling f (f.respell typeName? (some other))

/-- No name of a type is written with a dot in front. -/
def Undotted (f : Field) : Prop := ∀ name ∈ f.typeNames, ¬ HasDot name

instance (f : Field) : Decidable f.Undotted :=
  inferInstanceAs (Decidable (∀ name ∈ f.typeNames, ¬ HasDot name))

theorem Undotted.value {f value : Field} (h : f.Undotted) (layer : f.cardinality = .map)
    (values : f.mapValue = some value) : value.Undotted := fun name hname =>
  h name (mem_typeNames_of_map layer values hname)

theorem Undotted.typeName? {f : Field} (h : f.Undotted) {name : String}
    (hname : f.typeName? = some name) : ¬ HasDot name :=
  h name (List.mem_filterMap.2 ⟨f, List.mem_cons_self, hname⟩)

theorem Undotted.not_doubleDotted {f : Field} (h : f.Undotted) : ¬ f.DoubleDotted := by
  rintro ⟨-, name, hname, hdots⟩
  exact h.typeName? hname hdots.hasDot

theorem Respelling.exists_eq {f g : Field} (h : f.Respelling g) :
    ∃ typeName? mapValue, g = f.respell typeName? mapValue ∧
      Option.Rel Respelled f.typeName? typeName? := by
  cases h with
  | plain name _ => exact ⟨_, _, rfl, name⟩
  | nested name _ _ => exact ⟨_, _, rfl, name⟩

end Field

/-- Dots stand in front of names in a message type. -/
structure MessageType.Respelling (m n : MessageType) : Prop where
  name : Respelled m.declaredName n.declaredName
  fields : List.Forall₂ Field.Respelling m.fields n.fields

/-- A dot stands in front of the name of an enum type. -/
structure EnumType.Respelling (e d : EnumType) : Prop where
  name : Respelled e.declaredName d.declaredName
  values : d.values = e.values

namespace DescriptorSet

/-- The set with dots in front of some of its names. -/
structure Respelling (set other : DescriptorSet) : Prop where
  messages : List.Forall₂ MessageType.Respelling set.messages other.messages
  enums : List.Forall₂ EnumType.Respelling set.enums other.enums

/-- No name is written with a dot in front. -/
structure Undotted (set : DescriptorSet) : Prop where
  messages : ∀ m ∈ set.messages, ¬ HasDot m.declaredName
  fields : ∀ m ∈ set.messages, ∀ f ∈ m.fields, f.Undotted
  enums : ∀ e ∈ set.enums, ¬ HasDot e.declaredName

/-! ## Looking names up -/

theorem find?_forall₂ {α β : Type} {R : α → β → Prop} {p : α → Bool} {q : β → Bool} {xs : List α}
    {ys : List β} (h : List.Forall₂ (fun x y => R x y ∧ q y = p x) xs ys) :
    Option.Rel R (xs.find? p) (ys.find? q) := by
  induction h with
  | nil => exact .none
  | @cons x y _ _ hfirst _ ih =>
    obtain ⟨hxy, hpq⟩ := hfirst
    cases hx : p x with
    | true =>
      rw [List.find?_cons_of_pos hx, List.find?_cons_of_pos (hpq.trans hx)]
      exact .some hxy
    | false =>
      rw [List.find?_cons_of_neg (by rw [hx]; decide),
        List.find?_cons_of_neg (by rw [hpq, hx]; decide)]
      exact ih

variable {set other : DescriptorSet}

/-- A message of the set with its other spelling. -/
def Alike (set : DescriptorSet) (m n : MessageType) : Prop :=
  m ∈ set.messages ∧ m.Respelling n

section Lookup

variable (hplain : set.Undotted) (h : set.Respelling other)

include hplain in
theorem Alike.fullName_eq {m n : MessageType} (hmn : set.Alike m n) : n.fullName = m.fullName := by
  obtain ⟨hm, hrespelling⟩ := hmn
  have hdot := hplain.messages m hm
  unfold MessageType.fullName
  rw [hrespelling.name.plainName_eq hdot, plainName_of_not_hasDot hdot]

include h in
theorem forall₂_alike : List.Forall₂ set.Alike set.messages other.messages :=
  (List.forall₂_and_left _ _).2 ⟨fun _ hm => hm, h.messages⟩

include hplain h

theorem forall₂_enums : List.Forall₂ (fun e d => d.values = e.values ∧ d.fullName = e.fullName)
    set.enums other.enums := by
  have hboth := (List.forall₂_and_left _ _).2 ⟨hplain.enums, h.enums⟩
  refine hboth.imp fun e d ⟨hdot, hrespelling⟩ => ⟨hrespelling.values, ?_⟩
  unfold EnumType.fullName
  rw [hrespelling.name.plainName_eq hdot, plainName_of_not_hasDot hdot]

/-- Full names are the same on both sides, in the same order. -/
theorem names_respelled : other.names = set.names := by
  have hmessages : set.messages.map (·.fullName) = other.messages.map (·.fullName) := by
    rw [← List.forall₂_eq_eq_eq, List.forall₂_map_left_iff, List.forall₂_map_right_iff]
    exact (forall₂_alike h).imp fun _ _ hmn => (hmn.fullName_eq hplain).symm
  have henums : set.enums.map (·.fullName) = other.enums.map (·.fullName) := by
    rw [← List.forall₂_eq_eq_eq, List.forall₂_map_left_iff, List.forall₂_map_right_iff]
    exact (forall₂_enums hplain h).imp fun _ _ hed => hed.2.symm
  unfold names
  rw [hmessages, henums]

/-- A name is found as a message and its other spelling, or as none. -/
theorem message?_respelled (name : String) :
    Option.Rel set.Alike (set.message? name) (other.message? name) := by
  refine find?_forall₂ ((forall₂_alike h).imp fun m n hmn => ⟨hmn, ?_⟩)
  rw [hmn.fullName_eq hplain]

theorem exists_message?_respelled {name : String} {m : MessageType}
    (found : set.message? name = some m) :
    ∃ n, set.Alike m n ∧ other.message? name = some n := by
  have hrel := message?_respelled hplain h name
  rw [found] at hrel
  generalize other.message? name = found' at hrel ⊢
  cases hrel with
  | some hmn => exact ⟨_, hmn, rfl⟩

theorem enum?_respelled (name : String) :
    (other.enum? name).map (·.values) = (set.enum? name).map (·.values) := by
  have hrel : Option.Rel (fun e d : EnumType => d.values = e.values) (set.enum? name)
      (other.enum? name) :=
    find?_forall₂ ((forall₂_enums hplain h).imp fun e d hed => ⟨hed.1, by rw [hed.2]⟩)
  generalize set.enum? name = found, other.enum? name = found' at hrel ⊢
  cases hrel with
  | some hvalues => rw [Option.map_some, Option.map_some, hvalues]
  | none => rfl

omit h in
/-- A name has the same meaning for the check of a pool under either spelling. -/
theorem resolves_respelled (h : set.Respelling other) (kind : Kind) {name name' : String}
    (hname : Respelled name name') (hdot : ¬ HasDot name) :
    other.resolves kind name' = set.resolves kind name := by
  have hplainName : plainName name' = plainName name := by
    rw [hname.plainName_eq hdot, plainName_of_not_hasDot hdot]
  cases kind with
  | message =>
    have hrel := message?_respelled hplain h name
    have hfound : (other.message? name).isSome = (set.message? name).isSome := by
      generalize set.message? name = found, other.message? name = found' at hrel ⊢
      cases hrel <;> rfl
    simp only [resolves, WellKnown.ofName?, message?, hplainName] at hfound ⊢
    rw [hfound]
  | enum =>
    have hvalues := congrArg Option.isSome (enum?_respelled hplain h name)
    rw [Option.isSome_map, Option.isSome_map] at hvalues
    simp only [resolves, enum?, hplainName] at hvalues ⊢
    exact hvalues
  | _ => rfl

end Lookup

/-! ## Fields -/

section Fields

variable (hplain : set.Undotted) (h : set.Respelling other)

omit hplain h in
theorem typeName_respelled {f : Field} {typeName? : Option String} {mapValue : Option Field}
    (hname : Option.Rel Respelled f.typeName? typeName?) (hf : f.Undotted) :
    (f.respell typeName? mapValue).typeName = f.typeName := by
  unfold Field.typeName
  rw [Field.respell_typeName?]
  cases hfound : f.typeName? with
  | none =>
    rw [hfound] at hname
    cases hname
    rfl
  | some name =>
    rw [hfound] at hname
    cases hname with
    | some hname =>
      have hdot := hf.typeName? hfound
      rw [Option.map_some, Option.map_some, hname.plainName_eq hdot, plainName_of_not_hasDot hdot]

include hplain h

theorem sameForm_respelled {f : Field} {typeName? : Option String} {mapValue : Option Field}
    (hname : Option.Rel Respelled f.typeName? typeName?) (hf : f.Undotted) :
    set.SameForm other f (f.respell typeName? mapValue) := by
  have htype : (f.respell typeName? mapValue).typeName = f.typeName := typeName_respelled hname hf
  constructor
  · unfold Field.wellKnown?
    rw [htype, Field.respell_kind]
  · intro _
    unfold enumOf?
    rw [htype]
    cases f.typeName with
    | none => rfl
    | some name => exact enum?_respelled hplain h name

theorem wellFormed_single_respelled {f : Field} {typeName? : Option String}
    {mapValue : Option Field} (single : f.cardinality ≠ .map)
    (hname : Option.Rel Respelled f.typeName? typeName?) (hf : f.Undotted) :
    other.WellFormed (f.respell typeName? mapValue) ↔ set.WellFormed f := by
  have single' : (f.respell typeName? mapValue).cardinality ≠ .map := single
  rw [wellFormed_single_iff single, wellFormed_single_iff single', Field.respell_name,
    Field.respell_kind, Field.respell_typeName?]
  refine and_congr_right fun _ => imp_congr_right fun _ => ?_
  cases hfound : f.typeName? with
  | none =>
    rw [hfound] at hname
    cases hname
    exact Iff.intro (fun ⟨_, hnone, _⟩ => by cases hnone) (fun ⟨_, hnone, _⟩ => by cases hnone)
  | some name =>
    rw [hfound] at hname
    cases hname with
    | some hname =>
      have hresolves := resolves_respelled hplain h f.kind hname (hf.typeName? hfound)
      simp only [Option.some.injEq, exists_eq_left', hresolves]

/-- A field is well formed under either spelling. -/
theorem wellFormed_respelled {f g : Field} (hfg : f.Respelling g) (hf : f.Undotted) :
    other.WellFormed g ↔ set.WellFormed f := by
  induction hfg with
  | @plain f typeName? hname values =>
    by_cases layer : f.cardinality = .map
    · have layer' : (f.respell typeName? none).cardinality = .map := layer
      rw [wellFormed_map_iff layer, wellFormed_map_iff layer', values]
      simp only [Field.respell_name, Field.respell_mapValue, reduceCtorEq, false_and, exists_false]
    · exact wellFormed_single_respelled hplain h layer hname hf
  | @nested f value value' typeName? hname values _ ih =>
    by_cases layer : f.cardinality = .map
    · have layer' : (f.respell typeName? (some value')).cardinality = .map := layer
      rw [wellFormed_map_iff layer, wellFormed_map_iff layer', values, Field.respell_mapValue]
      simp only [Option.some.injEq, exists_eq_left', Field.respell_name,
        ih (hf.value layer values)]
    · exact wellFormed_single_respelled hplain h layer hname hf

theorem messageOf?_respelled {f : Field} {typeName? : Option String} {mapValue : Option Field}
    (hname : Option.Rel Respelled f.typeName? typeName?) (hf : f.Undotted) {m : MessageType}
    (found : set.messageOf? f = some m) :
    ∃ n, set.Alike m n ∧ other.messageOf? (f.respell typeName? mapValue) = some n := by
  obtain ⟨name, htype, hm⟩ := Option.bind_eq_some_iff.1 found
  unfold messageOf?
  rw [typeName_respelled hname hf, htype, Option.bind_some]
  exact exists_message?_respelled hplain h hm

theorem corresponds_single_respelled {f : Field} {typeName? : Option String}
    {mapValue : Option Field} (single : f.cardinality ≠ .map)
    (hname : Option.Rel Respelled f.typeName? typeName?) (hf : f.Undotted)
    (hwf : set.WellFormed f) :
    set.Corresponds other set.Alike f (f.respell typeName? mapValue) := by
  refine .leaf single (sameForm_respelled hplain h hname hf) fun hk special => ?_
  obtain ⟨m, found⟩ := exists_messageOf? hwf single hk hf.not_doubleDotted special
  obtain ⟨n, hmn, found'⟩ := messageOf?_respelled hplain h hname hf found
  exact ⟨m, n, hmn, found, found'⟩

/-- A well-formed field corresponds to its other spelling. -/
theorem corresponds_respelled {f g : Field} (hfg : f.Respelling g) (hf : f.Undotted)
    (hwf : set.WellFormed f) : set.Corresponds other set.Alike f g := by
  induction hfg with
  | @plain f typeName? hname values =>
    by_cases layer : f.cardinality = .map
    · obtain ⟨-, value, hvalue, -⟩ := (wellFormed_map_iff layer).1 hwf
      rw [values] at hvalue
      cases hvalue
    · exact corresponds_single_respelled hplain h layer hname hf hwf
  | @nested f value value' typeName? hname values below ih =>
    by_cases layer : f.cardinality = .map
    · obtain ⟨-, _, hvalue, hbelow⟩ := (wellFormed_map_iff layer).1 hwf
      rw [values] at hvalue
      cases hvalue
      obtain ⟨innerName?, innerValue, rfl, hinner⟩ := below.exists_eq
      have hvalue := hf.value layer values
      exact .map layer values (sameForm_respelled hplain h hinner hvalue).mapSchema_eq
        (ih hvalue hbelow)
    · exact corresponds_single_respelled hplain h layer hname hf hwf

end Fields

/-! ## Pools -/

theorem forall_mem_iff_of_forall₂ {α β : Type} {R : α → β → Prop} {p : α → Prop} {q : β → Prop}
    {xs : List α} {ys : List β} (h : List.Forall₂ R xs ys)
    (hpq : ∀ x ∈ xs, ∀ y, R x y → (q y ↔ p x)) : (∀ y ∈ ys, q y) ↔ ∀ x ∈ xs, p x := by
  induction h with
  | nil => exact Iff.intro (fun _ _ hx => by cases hx) fun _ _ hy => by cases hy
  | @cons x y xs ys hxy _ ih =>
    rw [List.forall_mem_cons, List.forall_mem_cons, hpq x List.mem_cons_self y hxy,
      ih fun x hx => hpq x (List.mem_cons_of_mem _ hx)]

/-- A set is a pool exactly if it is one under the other spelling. -/
theorem offence?_respelled (hplain : set.Undotted) (h : set.Respelling other) :
    other.offence? = none ↔ set.offence? = none := by
  rw [offence?_eq_none_iff, offence?_eq_none_iff, names_respelled hplain h]
  refine and_congr_right fun _ => forall_mem_iff_of_forall₂ h.messages fun m hm n hmn => ?_
  refine forall_mem_iff_of_forall₂ hmn.fields fun f hf g hfg => ?_
  rw [fieldOffence?_eq_none_iff, fieldOffence?_eq_none_iff]
  exact wellFormed_respelled hplain h hfg (hplain.fields m hm f hf)

end DescriptorSet

namespace Pool

open DescriptorSet

variable {pool dotted : Pool} (hplain : pool.set.Undotted) (h : pool.set.Respelling dotted.set)

include hplain h

theorem simulates_respelled : pool.set.Simulates dotted.set pool.set.Alike := by
  constructor
  · intro m n hmn
    exact hmn.fullName_eq hplain
  · rintro m n ⟨hm, hmn⟩
    have hfields := (List.forall₂_and_left _ _).2 ⟨fun f hf => hf, hmn.fields⟩
    refine hfields.imp fun f g ⟨hf, hfg⟩ => ?_
    exact corresponds_respelled hplain h hfg (hplain.fields m hm f hf) (pool.wellFormed hm hf)

/-- A message and its other spelling have the same schema, or the same error. -/
theorem schemaOf_respelled (m : pool.set.Message) (n : dotted.set.Message)
    (hmn : m.val.Respelling n.val) : dotted.schemaOf n = pool.schemaOf m :=
  ((simulates_respelled hplain h).expandMessage_eq [] m n ⟨m.property, hmn⟩).symm

theorem check_respelled [PatternSyntax] : dotted.check = pool.check := by
  have hmessages := forall₂_alike h
  have hresults : dotted.check.results = pool.check.results := by
    rw [check_results, check_results]
    refine List.ext_getElem ?_ fun i hi hi' => ?_
    · rw [List.length_map, List.length_map, List.length_attach, List.length_attach]
      exact hmessages.length_eq.symm
    · rw [List.getElem_map, List.getElem_map, List.getElem_attach, List.getElem_attach]
      rw [List.length_map, List.length_attach] at hi hi'
      have hmn : pool.set.Alike pool.set.messages[i] dotted.set.messages[i] := hmessages.get hi' hi
      have hschema := schemaOf_respelled hplain h ⟨_, List.getElem_mem hi'⟩ ⟨_, List.getElem_mem hi⟩
        hmn.2
      have hname := hmn.fullName_eq hplain
      exact congrArg₂ MessageCheck.ofSchema hname hschema
  exact congrArg CheckReport.mk hresults

omit hplain h

/-- **One dot in front of a name is never significant.** A set in which no name begins with a dot is
a pool exactly if it is one with dots in front of any of its names, and then a message is found
under either spelling in both, with the same full name and the same schema or error; and the checks
of both report the same, whatever texts count as patterns. -/
theorem respelled_alike [PatternSyntax] {set other : DescriptorSet} (hplain : set.Undotted)
    (h : set.Respelling other) :
    ((∃ dotted, Pool.ofSet other = .ok dotted) ↔ ∃ pool, Pool.ofSet set = .ok pool) ∧
    ∀ pool dotted : Pool, Pool.ofSet set = .ok pool → Pool.ofSet other = .ok dotted →
      (∀ (m : pool.set.Message) (name : String), Respelled m.val.declaredName name →
        pool.schema name = pool.schemaOf m ∧ dotted.schema name = pool.schemaOf m ∧
        (pool.message? name).map (·.fullName) = some m.val.declaredName ∧
        (dotted.message? name).map (·.fullName) = some m.val.declaredName) ∧
      dotted.check = pool.check := by
  refine ⟨?_, fun pool dotted hpool hdotted => ?_⟩
  · rw [exists_ofSet_iff, exists_ofSet_iff]
    exact offence?_respelled hplain h
  obtain rfl := set_of_ofSet hpool
  obtain rfl := set_of_ofSet hdotted
  refine ⟨fun m name hname => ?_, check_respelled hplain h⟩
  have hdot := hplain.messages m.val m.property
  have hplainName : plainName name = m.val.fullName := by
    rw [hname.plainName_eq hdot, MessageType.fullName, plainName_of_not_hasDot hdot]
  have hfound : pool.message? name = some m.val :=
    pool.message?_eq_some_iff.2 ⟨m.property, hplainName.symm⟩
  obtain ⟨n, hmn, hfound'⟩ := exists_message?_respelled hplain h hfound
  have hdotted' : dotted.message? name = some n := hfound'
  have hschema : dotted.schema name = dotted.schemaOf ⟨n, mem_of_message? hfound'⟩ :=
    dotted.schema_of_message? hdotted'
  have hfull : m.val.fullName = m.val.declaredName := plainName_of_not_hasDot hdot
  refine ⟨pool.schema_of_message? hfound, ?_, ?_, ?_⟩
  · rw [hschema]
    exact schemaOf_respelled hplain h m ⟨n, mem_of_message? hfound'⟩ hmn.2
  · rw [hfound, Option.map_some, hfull]
  · rw [hdotted', Option.map_some, hmn.fullName_eq hplain, hfull]

/-- A quay with its ships by name. -/
def quay : MessageType :=
  { declaredName := "port.Quay",
    fields := [.mapOf "ships" (.ofMessage "ship" "port.Ship"),
      .ofMessage "opened" "google.protobuf.Timestamp"] }

/-- A ship with its home and its flag. -/
def ship : MessageType :=
  { declaredName := "port.Ship",
    fields := [.ofMessage "home" "port.Quay", .ofEnum "flag" "port.Flag"] }

/-- A pool without dots in front of names. -/
def harbour : Pool where
  set := { messages := [quay, ship], enums := [{ declaredName := "port.Flag" }] }
  sound := by decide

/-- The quay with dots in front of its name and in its fields. -/
def dottedQuay : MessageType :=
  { declaredName := ".port.Quay",
    fields := [.mapOf "ships" (.ofMessage "ship" ".port.Ship"),
      .ofMessage "opened" ".google.protobuf.Timestamp"] }

/-- The harbour with dots in front of some names. -/
def dottedHarbour : Pool where
  set := { messages := [dottedQuay, ship], enums := [{ declaredName := ".port.Flag" }] }
  sound := by decide

theorem harbour_respelled :
    harbour.set.Undotted ∧ harbour.set.Respelling dottedHarbour.set ∧
    ∃ schema, harbour.schema "port.Quay" = .ok schema ∧ harbour.schema ".port.Quay" = .ok schema ∧
      dottedHarbour.schema "port.Quay" = .ok schema ∧
      dottedHarbour.schema ".port.Quay" = .ok schema ∧ dottedHarbour.check = harbour.check := by
  have hplain : harbour.set.Undotted := by
    constructor
    · decide
    · decide
    · decide
  have hship : ship.Respelling ship := by
    refine ⟨.inl rfl, .cons ?_ (.cons ?_ .nil)⟩
    · exact .plain (.some (.inl rfl)) rfl
    · exact .plain (.some (.inl rfl)) rfl
  have hquay : quay.Respelling dottedQuay := by
    refine ⟨.inr rfl, .cons ?_ (.cons ?_ .nil)⟩
    · exact .nested .none rfl (.plain (.some (.inr rfl)) rfl)
    · exact .plain (.some (.inr rfl)) rfl
  have hrespelling : harbour.set.Respelling dottedHarbour.set :=
    ⟨.cons hquay (.cons hship .nil), .cons ⟨.inr rfl, rfl⟩ .nil⟩
  obtain ⟨-, halike⟩ := respelled_alike hplain hrespelling
  obtain ⟨hschemas, hcheck⟩ := halike harbour dottedHarbour harbour.ofSet_set
    dottedHarbour.ofSet_set
  let m : harbour.set.Message := ⟨quay, List.mem_cons_self⟩
  obtain ⟨schema, hschema⟩ := harbour.exists_schemaOf m (by decide +kernel)
  obtain ⟨hplainName, hplainName', -⟩ := hschemas m "port.Quay" (.inl rfl)
  obtain ⟨hdotName, hdotName', -⟩ := hschemas m ".port.Quay" (.inr rfl)
  rw [hschema] at hplainName hplainName' hdotName hdotName'
  exact ⟨hplain, hrespelling, schema, hplainName, hdotName, hplainName', hdotName', hcheck⟩

end Pool

end MessageSchema
