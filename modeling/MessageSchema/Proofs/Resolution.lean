import MessageSchema.Proofs.Failure
import MessageSchema.Proofs.Position

/-!
# What type names are read as

The check of a pool takes one leading dot off the name of a type before it looks the type up.
Generation takes a dot off twice: once for the name of the type of a field, once for the look-up. So
the two read a name alike exactly when it does not begin with two dots (`resolution_agrees_iff`),
and a name that begins with two dots passes the check and finds nothing, or something else
(`dotted_unresolved`).
-/

namespace MessageSchema

/-! ## Leading dots -/

/-- The name begins with two dots. -/
def HasTwoDots (name : String) : Prop := ∃ rest, name.toList = '.' :: '.' :: rest

theorem plainName_of_dot {name : String} {rest : List Char} (h : name.toList = '.' :: rest) :
    plainName name = String.ofList rest := by
  unfold plainName
  split
  · next tail htail =>
    obtain rfl : tail = rest := (List.cons.inj (htail.symm.trans h)).2
    rfl
  · next hother => exact absurd h (hother rest)

theorem plainName_of_not_dot {name : String} (h : ∀ rest, name.toList ≠ '.' :: rest) :
    plainName name = name := by
  unfold plainName
  split
  · next rest hr => exact absurd hr (h rest)
  · rfl

/-- A second dot is there to take off exactly in names that begin with two. -/
theorem plainName_plainName_eq_iff {name : String} :
    plainName (plainName name) = plainName name ↔ ¬ HasTwoDots name := by
  by_cases hdot : ∃ rest, name.toList = '.' :: rest
  · obtain ⟨rest, hrest⟩ := hdot
    rw [plainName_of_dot hrest]
    constructor
    · rintro heq ⟨tail, htail⟩
      obtain rfl : rest = '.' :: tail := List.cons.inj (hrest.symm.trans htail) |>.2
      rw [plainName_of_dot String.toList_ofList] at heq
      have hlength := congrArg String.toList heq
      rw [String.toList_ofList, String.toList_ofList] at hlength
      exact absurd hlength (List.ne_cons_self)
    · intro hname
      refine plainName_of_not_dot fun tail htail => hname ⟨tail, ?_⟩
      rw [String.toList_ofList] at htail
      rw [hrest, htail]
  · have hplain : plainName name = name := plainName_of_not_dot fun rest hr => hdot ⟨rest, hr⟩
    rw [hplain]
    exact ⟨fun _ => fun ⟨rest, hr⟩ => hdot ⟨_, hr⟩, fun _ => hplain⟩

instance (name : String) : Decidable (HasTwoDots name) :=
  decidable_of_iff (plainName (plainName name) ≠ plainName name)
    (by rw [Ne, plainName_plainName_eq_iff, not_not])

/-- No well-known type has a dot in front of its name. -/
theorem WellKnown.ofName?_of_hasTwoDots {name : String} (h : HasTwoDots name) :
    WellKnown.ofName? name = none := by
  obtain ⟨rest, hrest⟩ := h
  have hplain := plainName_of_dot hrest
  unfold ofName?
  refine List.find?_eq_none.2 fun type _ heq => ?_
  rw [hplain, beq_iff_eq] at heq
  have hchars := congrArg String.toList heq
  rw [String.toList_ofList] at hchars
  have hfirst : type.fullName.toList.head? = some 'g' := by cases type <;> decide
  rw [hchars] at hfirst
  cases hfirst

namespace Field

/-- The field needs a type, and the name it gives for it begins with two dots. -/
def DoubleDotted (f : Field) : Prop :=
  f.kind.isNamed = true ∧ ∃ name, f.typeName? = some name ∧ HasTwoDots name

theorem not_doubleDotted {f : Field} (h : ∀ name ∈ f.typeNames, ¬ HasTwoDots name) :
    ¬ f.DoubleDotted := by
  rintro ⟨-, name, hname, hdots⟩
  exact h name (List.mem_filterMap.2 ⟨f, List.mem_cons_self, hname⟩) hdots

end Field

namespace DescriptorSet

variable {set : DescriptorSet}

/-- The check of a pool and generation take the type of a leaf for the same: one well-known type, or
one declared type. -/
def ReadAlike (set : DescriptorSet) (f : Field) : Prop :=
  match f.kind with
  | .message =>
    (∃ type, f.typeName?.bind WellKnown.ofName? = some type ∧ f.wellKnown? = some type) ∨
      f.typeName?.bind WellKnown.ofName? = none ∧
        ∃ m, f.typeName?.bind set.message? = some m ∧ set.messageOf? f = some m
  | .enum => ∃ e, f.typeName?.bind set.enum? = some e ∧ set.enumOf? f = some e
  | _ => True

theorem message?_plainName {name : String} (h : ¬ HasTwoDots name) :
    set.message? (plainName name) = set.message? name := by
  rw [message?, message?, plainName_plainName_eq_iff.2 h]

theorem enum?_plainName {name : String} (h : ¬ HasTwoDots name) :
    set.enum? (plainName name) = set.enum? name := by
  rw [enum?, enum?, plainName_plainName_eq_iff.2 h]

theorem ofName?_plainName {name : String} (h : ¬ HasTwoDots name) :
    WellKnown.ofName? (plainName name) = WellKnown.ofName? name := by
  rw [WellKnown.ofName?, WellKnown.ofName?, plainName_plainName_eq_iff.2 h]

/-- A name that resolves and does not begin with two dots is read alike. -/
theorem readAlike_of_not_doubleDotted {f : Field}
    (hresolved : f.kind.isNamed = true →
      ∃ name, f.typeName? = some name ∧ set.resolves f.kind name = true)
    (h : ¬ f.DoubleDotted) : set.ReadAlike f := by
  unfold ReadAlike
  split
  · next hk =>
    obtain ⟨name, hname, hres⟩ := hresolved (by rw [hk]; rfl)
    have hdots : ¬ HasTwoDots name := fun hd => h ⟨by rw [hk]; rfl, name, hname, hd⟩
    simp only [Field.wellKnown?, if_pos hk, messageOf?, Field.typeName, hname, Option.map_some,
      Option.bind_some, ofName?_plainName hdots, message?_plainName hdots]
    cases hw : WellKnown.ofName? name with
    | some type => exact .inl ⟨type, rfl, rfl⟩
    | none =>
      simp only [hk, resolves, hw, Option.isSome_none, Bool.false_or] at hres
      obtain ⟨m, hm⟩ := Option.isSome_iff_exists.1 hres
      exact .inr ⟨rfl, m, hm, hm⟩
  · next hk =>
    obtain ⟨name, hname, hres⟩ := hresolved (by rw [hk]; rfl)
    have hdots : ¬ HasTwoDots name := fun hd => h ⟨by rw [hk]; rfl, name, hname, hd⟩
    simp only [enumOf?, Field.typeName, hname, Option.map_some, Option.bind_some,
      enum?_plainName hdots]
    rw [hk] at hres
    obtain ⟨e, he⟩ := Option.isSome_iff_exists.1 hres
    exact ⟨e, he, he⟩
  · trivial

/-- A name that begins with two dots is not read alike: what it is read as with one of its dots is
not named as what it is read as with none. -/
theorem not_readAlike_of_doubleDotted {f : Field} (h : f.DoubleDotted) : ¬ set.ReadAlike f := by
  obtain ⟨hk, name, hname, hdots⟩ := h
  have hne : plainName (plainName name) ≠ plainName name := fun heq =>
    plainName_plainName_eq_iff.1 heq hdots
  unfold ReadAlike
  split
  · simp only [messageOf?, Field.typeName, hname, Option.map_some, Option.bind_some,
      WellKnown.ofName?_of_hasTwoDots hdots]
    rintro (⟨type, hnone, -⟩ | ⟨-, m, hchecked, hfound⟩)
    · cases hnone
    · exact hne ((fullName_of_message? hfound).symm.trans (fullName_of_message? hchecked))
  · simp only [enumOf?, Field.typeName, hname, Option.map_some, Option.bind_some]
    rintro ⟨e, hchecked, hfound⟩
    exact hne ((fullName_of_enum? hfound).symm.trans (fullName_of_enum? hchecked))
  · next hm he =>
    exfalso
    cases hkind : f.kind <;> rw [hkind] at hk <;>
      first | exact hm hkind | exact he hkind | cases hk

/-! What a field with one value or a list of values names is found, if it is read alike. -/

section Found

variable {f : Field} (hf : set.WellFormed f) (single : f.cardinality ≠ .map)

include hf single

theorem readAlike_of_single (hdots : ¬ f.DoubleDotted) : set.ReadAlike f := by
  have hresolved := hf.leaf_resolved
  rw [Field.leaf_of_not_map single] at hresolved
  exact readAlike_of_not_doubleDotted hresolved hdots

theorem enumOf?_ne_none (hk : f.kind = .enum) (hdots : ¬ f.DoubleDotted) :
    set.enumOf? f ≠ none := by
  have halike := readAlike_of_single hf single hdots
  simp only [ReadAlike, hk] at halike
  obtain ⟨e, -, found⟩ := halike
  rw [found]
  exact Option.some_ne_none e

theorem exists_messageOf? (hk : f.kind = .message) (hdots : ¬ f.DoubleDotted)
    (special : f.wellKnown? = none) : ∃ m, set.messageOf? f = some m := by
  have halike := readAlike_of_single hf single hdots
  simp only [ReadAlike, hk] at halike
  rcases halike with ⟨type, -, hw⟩ | ⟨-, m, -, found⟩
  · rw [special] at hw
    cases hw
  · exact ⟨m, found⟩

end Found

/-- A field whose type is read alike can only be faulty as a group. -/
theorem doubleDotted_of_fault_unresolved {f : Field} {typeName : String} (hf : set.WellFormed f)
    (h : set.Fault f (.unresolvedType typeName)) : f.leaf.DoubleDotted := by
  by_contra hdots
  have halike := readAlike_of_not_doubleDotted hf.leaf_resolved hdots
  cases h with
  | unresolved hk special missing _ =>
    unfold ReadAlike at halike
    simp only [hk] at halike
    rcases halike with ⟨type, -, hw⟩ | ⟨-, m, -, hm⟩
    · rw [special] at hw; cases hw
    · rw [missing] at hm; cases hm

end DescriptorSet

/-! ## The names of enum values -/

/-- A list that rules for enum values put in is not empty. -/
theorem exists_cons_of_mem_enumKeywords {rules : FieldRules} {enum : Option EnumType} {value : Json}
    (h : ("enum", value) ∈ rules.keywords .enum enum) :
    ∃ first rest, value = .arr (first :: rest) := by
  rw [FieldRules.keywords] at h
  cases hr : rules.enum with
  | none => rw [hr] at h; cases h
  | some own =>
    cases enum with
    | none => rw [hr] at h; cases h
    | some e =>
      rw [hr] at h
      rcases List.mem_append.1 h with hconst | henum
      · obtain ⟨_, -, heq⟩ := mem_keyword hconst
        exact absurd (Prod.mk.inj heq).1 (by decide)
      · obtain ⟨hne, heq⟩ := mem_listed henum
        obtain ⟨name, names, hnames⟩ := List.exists_cons_of_ne_nil hne
        cases heq
        exact ⟨name, names, by rw [hnames]⟩

/-- The schema lists names, one at least. -/
def Json.HasNames (schema : Json) : Prop :=
  ∃ first rest, schema.get? "enum" = some (.arr (first :: rest))

namespace Json.HasNames

theorem enumeration {e : EnumType} (h : e.values ≠ []) :
    (Fragment.enumeration (some e)).HasNames := by
  obtain ⟨value, rest, hv⟩ := List.exists_cons_of_ne_nil h
  unfold Fragment.enumeration
  rw [Option.map_some, hv]
  exact ⟨_, _, rfl⟩

/-- Rules for enum values list names or leave the list as it is. -/
theorem withRules {rules : FieldRules} {enum : Option EnumType} {schema : Json}
    (h : schema.HasNames) : (schema.withRules rules .enum enum).HasNames := by
  obtain ⟨first, rest, hlist⟩ := h
  cases schema with
  | obj members =>
    rcases Members.get?_putAll_cases "enum" members (rules.keywords .enum enum) with
      hkept | ⟨value, hin, hfound⟩
    · exact ⟨first, rest, hkept.trans hlist⟩
    · obtain ⟨name, names, rfl⟩ := exists_cons_of_mem_enumKeywords hin
      exact ⟨name, names, hfound⟩
  | _ => cases hlist

theorem withDescription {description : Option String} {schema : Json} (h : schema.HasNames) :
    (schema.withDescription description).HasNames := by
  obtain ⟨first, rest, hlist⟩ := h
  exact ⟨first, rest, (get?_withDescription (by decide)).trans hlist⟩

theorem orNull {schema : Json} (h : schema.HasNames) : schema.orNull.HasNames := by
  obtain ⟨first, rest, hlist⟩ := h
  exact ⟨first, rest, (get?_orNull (by decide) (by decide)).trans hlist⟩

/-- A field of an enum type keeps the list of names. -/
theorem at?_assemble {set : DescriptorSet} {f : Field} (hf : set.WellFormed f)
    (hk : f.leaf.kind = .enum) {schema : Json} (h : schema.HasNames) :
    ∃ value, (f.assemble set schema).at? f.valueKeys = some value ∧ value.HasNames := by
  refine Field.exists_at?_assemble hf ?_ fun rules enum schema hs => by rw [hk]; exact hs.withRules
  have special : f.leaf.wellKnown? = none := Field.wellKnown?_of_kind (by rw [hk]; decide)
  rw [Field.valueKeys_of_not_map hf.leaf_single]
  unfold Field.dress
  by_cases hl : f.leaf.isList = true
  · rw [if_pos hl, if_pos hl, Json.at?_cons (Field.get?_listSchema f.leaf schema), special]
    refine ⟨_, rfl, ?_⟩
    cases f.leaf.repeatedRules.bind (·.items) with
    | none => exact h
    | some rules => simp only [hk]; exact h.withRules
  · rw [if_neg hl, if_neg hl, special]
    refine ⟨_, rfl, ?_⟩
    simp only [Option.isSome_none, Bool.false_eq_true, if_false]
    unfold Field.singleSchema
    have hruled : (f.leaf.rules.elim (schema.withDescription f.leaf.description) fun rules =>
        (schema.withDescription f.leaf.description).withRules rules f.leaf.kind
          (set.enumOf? f.leaf)).HasNames := by
      cases f.leaf.rules with
      | none => exact h.withDescription
      | some rules => simp only [Option.elim_some, hk]; exact h.withDescription.withRules
    cases f.leaf.isNullable with
    | true => exact hruled.orNull
    | false => exact hruled

end Json.HasNames

namespace Pool

open DescriptorSet

/-- **The check of a pool and generation read the name of a type alike exactly when it does not
begin with two dots.** So a reference that is not found is one whose name begins with two dots, and
where no name of an enum type does, its fields list the names of its values. -/
theorem resolution_agrees_iff (pool : Pool) :
    (∀ m ∈ pool.set.messages, ∀ f ∈ m.fields,
      (pool.set.ReadAlike f.leaf ↔ ¬ f.leaf.DoubleDotted)) ∧
    (∀ (m : pool.set.Message) (e : SchemaError) (typeName : String), pool.schemaOf m = .error e →
      e.root = .unresolvedType typeName →
      ∃ n, pool.set.Reaches m.val n ∧ ∃ f ∈ n.fields, f.leaf.DoubleDotted) ∧
    ∀ m ∈ pool.set.messages, ∀ f ∈ m.fields, f.leaf.kind = .enum → ¬ f.leaf.DoubleDotted →
      ∃ enum, f.leaf.typeName?.bind pool.set.enum? = some enum ∧
        (enum.values ≠ [] → ∀ inside schema, pool.set.expandField inside f = .ok schema →
          ∃ value, schema.at? f.valueKeys = some value ∧ value.HasNames) := by
  refine ⟨fun m hm f hf => ?_, fun m e typeName he hroot => ?_, fun m hm f hf hk hdots => ?_⟩
  · have hwf := pool.wellFormed hm hf
    exact ⟨fun halike hdots => not_readAlike_of_doubleDotted hdots halike,
      readAlike_of_not_doubleDotted hwf.leaf_resolved⟩
  · obtain ⟨steps, cause, hsteps, rfl⟩ := pool.failsAlong_of_expandMessage [] m e he
    obtain ⟨n, hreach, f, hf, fault⟩ := hsteps.reaches
    rw [SchemaError.root_within, fault.root] at hroot
    subst hroot
    have hn := mem_of_reaches m.property hreach
    exact ⟨n, hreach, f, hf, doubleDotted_of_fault_unresolved (pool.wellFormed hn hf) fault⟩
  · have hwf := pool.wellFormed hm hf
    have halike := readAlike_of_not_doubleDotted hwf.leaf_resolved hdots
    unfold ReadAlike at halike
    simp only [hk] at halike
    obtain ⟨enum, hchecked, hfound⟩ := halike
    refine ⟨enum, hchecked, fun hvalues inside schema hs => ?_⟩
    have hvalue : pool.set.expandValue inside f.leaf = .ok (Fragment.enumeration (some enum)) := by
      rw [expandValue_of_kind (by rw [hk]; decide), hk, hfound]
      rfl
    rw [expandField_eq hwf, hvalue] at hs
    cases hs
    exact Json.HasNames.at?_assemble hwf hk (.enumeration hvalues)

/-- A message with the name of its type written as that type is declared, with two dots. -/
def dottedUser : MessageType :=
  { declaredName := "a.M", fields := [.ofType "b" .message "..a.B"] }

/-- A pool with a type that is declared under a name with two dots. -/
def dotted : Pool where
  set := { messages := [{ declaredName := "..a.B" }, dottedUser] }
  sound := by decide

/-- The check of a pool finds the type that is declared with two dots, and generation does not. -/
theorem dotted_unresolved :
    ¬ (∀ m ∈ dotted.set.messages, ∀ f ∈ m.fields, dotted.set.ReadAlike f.leaf) ∧
    ∃ m : dotted.set.Message, m.val = dottedUser ∧
      dotted.schemaOf m = .error (.inField "a.M" "b" (.unresolvedType ".a.B")) := by
  have hmem : dottedUser ∈ dotted.set.messages := .tail _ (.head _)
  have hfield : Field.ofType "b" .message "..a.B" ∈ dottedUser.fields := .head _
  have hdots : (Field.ofType "b" .message "..a.B").leaf.DoubleDotted :=
    ⟨rfl, "..a.B", rfl, "a.B".toList, by decide⟩
  refine ⟨fun h => not_readAlike_of_doubleDotted hdots (h _ hmem _ hfield), ⟨_, hmem⟩, rfl, ?_⟩
  have fault : dotted.set.Fault (.ofType "b" .message "..a.B") (.unresolvedType ".a.B") :=
    .unresolved rfl (by decide) (by decide) (by decide)
  have hname : dottedUser.fullName = "a.M" := by decide
  refine expandMessage_eq_error_iff.2
    ⟨List.not_mem_nil, [], _, [], .unresolvedType ".a.B", rfl, ?_, ?_, ?_⟩
  · exact fun _ hbefore => absurd hbefore List.not_mem_nil
  · exact expandField_of_fault (dotted.wellFormed hmem hfield) fault
  · rw [hname]
    rfl

end Pool

end MessageSchema
