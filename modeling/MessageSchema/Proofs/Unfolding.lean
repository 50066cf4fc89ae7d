import MessageSchema.Proofs.Reference
import Mathlib.Data.List.Forall2

/-!
# One step of an expansion

Expansion written over leaves. A well-formed field is expanded by giving the expansion of one value
of its leaf to `Field.assemble`, which puts the list and the layers of maps around it
(`expandField_eq`). The value of a leaf is an expanded message, a fault, or a schema that does not
depend on what is being expanded (`expandValue_of_refersTo`, `expandValue_of_fault`,
`WellFormed.leaf_cases`). The fields of a message are expanded in order up to the first that has no
schema (`expandFields_eq_ok_iff`, `expandFields_eq_error_iff`).

`expansion_induction` is the induction that expansion itself runs by: each message is expanded
inside one name more.
-/

namespace MessageSchema

namespace Field

/-- What is put around the schema of one value of a leaf: only a list if its type is well known. -/
def dress (set : DescriptorSet) (f : Field) (schema : Json) : Json :=
  if f.isList then f.listSchema set schema
  else if f.wellKnown?.isSome then schema
  else f.singleSchema set schema

/-- The schema of a field from that of one value of its leaf. -/
def assemble (set : DescriptorSet) (f : Field) (schema : Json) : Json :=
  match f with
  | { cardinality := .map, mapValue := some value, .. } =>
    f.mapSchema set value (value.assemble set schema)
  | _ => f.dress set schema
termination_by structural f

theorem assemble_of_map {set : DescriptorSet} {f value : Field} (hc : f.cardinality = .map)
    (hv : f.mapValue = some value) (schema : Json) :
    f.assemble set schema = f.mapSchema set value (value.assemble set schema) := by
  cases f
  simp only at hc hv
  subst hc hv
  rw [assemble]

theorem assemble_of_not_map {set : DescriptorSet} {f : Field} (hc : f.cardinality ≠ .map)
    (schema : Json) : f.assemble set schema = f.dress set schema := by
  unfold assemble
  split
  · exact absurd rfl hc
  · rfl

end Field

namespace DescriptorSet

variable {set : DescriptorSet} {inside : List String}

/-! ## Values -/

theorem expandValue_of_wellKnown {f : Field} {type : WellKnown} (h : f.wellKnown? = some type) :
    set.expandValue inside f = .ok type.schema := by
  rw [expandValue, h]

theorem expandValue_of_found {f : Field} {m : MessageType} (hk : f.kind = .message)
    (special : f.wellKnown? = none) (found : set.messageOf? f = some m) :
    set.expandValue inside f = set.expandMessage inside ⟨m, mem_of_messageOf? found⟩ := by
  rw [expandValue, special]
  simp only [hk]
  split
  · next n hn =>
    obtain rfl : n = m := Option.some.inj (hn.symm.trans found)
    rfl
  · next hn => rw [found] at hn; cases hn

theorem expandValue_of_missing {f : Field} (hk : f.kind = .message)
    (special : f.wellKnown? = none) (missing : set.messageOf? f = none) :
    set.expandValue inside f = .error (.unresolvedType (f.typeName.getD "")) := by
  rw [expandValue, special]
  simp only [hk]
  split
  · next n hn => rw [missing] at hn; cases hn
  · rfl

theorem expandValue_of_refersTo {f : Field} {m : MessageType} (h : set.RefersTo f m) :
    set.expandValue inside f.leaf = set.expandMessage inside ⟨m, h.mem⟩ :=
  expandValue_of_found h.1 h.2.1 h.2.2

/-- A value that is no message has the schema of its kind, whatever is being expanded. -/
theorem expandValue_of_kind {f : Field} (hk : f.kind ≠ .message) :
    set.expandValue inside f = f.kind.fragment (set.enumOf? f) := by
  rw [expandValue, Field.wellKnown?_of_kind hk]
  cases hkind : f.kind with
  | message => exact absurd hkind hk
  | _ => rfl

theorem expandValue_of_fault {f : Field} {cause : SchemaError} (h : set.Fault f cause) :
    set.expandValue inside f.leaf = .error cause := by
  cases h with
  | group hk =>
    rw [expandValue_of_kind (by rw [hk]; decide), hk]
    rfl
  | unresolved hk special missing named =>
    rw [expandValue_of_missing hk special missing, named]
    rfl

/-- A kind with a schema of its own has one whatever enum type it comes with. -/
theorem exists_fragment {kind : Kind} (hm : kind ≠ .message) (hg : kind ≠ .group)
    (enum : Option EnumType) : ∃ schema, kind.fragment enum = .ok schema := by
  cases kind <;> first | exact ⟨_, rfl⟩ | exact absurd rfl hm | exact absurd rfl hg

/-- The values of a well-formed field are messages of one type, or have no schema, or have one that
is the same inside all messages. -/
theorem WellFormed.leaf_cases {f : Field} (hf : set.WellFormed f) :
    (∃ m, set.RefersTo f m) ∨ (∃ cause, set.Fault f cause) ∨
      ∃ schema, ∀ inside, set.expandValue inside f.leaf = .ok schema := by
  cases special : f.leaf.wellKnown? with
  | some type => exact .inr (.inr ⟨_, fun _ => expandValue_of_wellKnown special⟩)
  | none =>
    by_cases hk : f.leaf.kind = .message
    · cases found : set.messageOf? f.leaf with
      | some m => exact .inl ⟨m, hk, special, found⟩
      | none => exact .inr (.inl (hf.exists_fault (.inr ⟨hk, special, found⟩)))
    by_cases hg : f.leaf.kind = .group
    · exact .inr (.inl (hf.exists_fault (.inl hg)))
    obtain ⟨schema, hs⟩ := exists_fragment hk hg (set.enumOf? f.leaf)
    exact .inr (.inr ⟨schema, fun inside => (expandValue_of_kind hk).trans hs⟩)

/-! ## Fields -/

theorem expandField_of_not_map {f : Field} (hc : f.cardinality ≠ .map) :
    set.expandField inside f = (set.expandValue inside f).map (f.dress set) := by
  have hwell : ∀ type, f.wellKnown? = some type →
      set.expandValue inside f = .ok type.schema := fun _ => expandValue_of_wellKnown
  unfold expandField Field.dress Field.isList
  cases hcard : f.cardinality with
  | repeated => rfl
  | map => exact absurd hcard hc
  | singular | required =>
    simp only
    cases special : f.wellKnown? with
    | none => rfl
    | some type => rw [hwell type special]; rfl

theorem expandField_of_single {f : Field} (hlist : f.cardinality ≠ .repeated)
    (hmap : f.cardinality ≠ .map) (special : f.wellKnown? = none) :
    set.expandField inside f = (set.expandValue inside f).map (f.singleSchema set) := by
  have hdress : f.dress set = f.singleSchema set := by
    funext schema
    simp [Field.dress, Field.isList, hlist, special]
  rw [expandField_of_not_map hmap, hdress]

theorem expandField_of_map {f value : Field} (layer : f.cardinality = .map)
    (values : f.mapValue = some value) : set.expandField inside f =
      (set.expandField inside value).map (f.mapSchema set value) := by
  rw [expandField, layer]
  simp only
  split
  · next hn => rw [values] at hn; cases hn
  · next other ho =>
    have hvo : value = other := Option.some.inj (values.symm.trans ho)
    subst hvo
    rfl

/-- The expansion of a field is that of its leaf, put together. -/
theorem expandField_eq {f : Field} (hf : set.WellFormed f) :
    set.expandField inside f = (set.expandValue inside f.leaf).map (f.assemble set) := by
  induction hf with
  | @map f value _ layer values _ ih =>
    rw [expandField_of_map layer values, ih, Field.leaf_of_map layer values]
    cases set.expandValue inside value.leaf with
    | error cause => rfl
    | ok schema => simp only [Except.map, Field.assemble_of_map layer values]
  | @leaf f _ single _ =>
    have hassemble : f.assemble set = f.dress set :=
      funext fun schema => Field.assemble_of_not_map single schema
    rw [expandField_of_not_map single, Field.leaf_of_not_map single, hassemble]

theorem expandField_of_refersTo {f : Field} {m : MessageType} (hf : set.WellFormed f)
    (h : set.RefersTo f m) : set.expandField inside f =
      (set.expandMessage inside ⟨m, h.mem⟩).map (f.assemble set) := by
  rw [expandField_eq hf, expandValue_of_refersTo h]

theorem expandField_of_fault {f : Field} {cause : SchemaError} (hf : set.WellFormed f)
    (h : set.Fault f cause) : set.expandField inside f = .error cause := by
  rw [expandField_eq hf, expandValue_of_fault h]
  rfl

/-- The schema of a field is put together from that of a well-known type, of a message, or of
another kind. -/
theorem exists_value_of_expandField {f : Field} (hf : set.WellFormed f) {schema : Json}
    (h : set.expandField inside f = .ok schema) : ∃ value, schema = f.assemble set value ∧
      ((∃ type, f.leaf.wellKnown? = some type ∧ value = type.schema) ∨
        (∃ m, ∃ hm : set.RefersTo f m, set.expandMessage inside ⟨m, hm.mem⟩ = .ok value) ∨
        f.leaf.kind.fragment (set.enumOf? f.leaf) = .ok value) := by
  rw [expandField_eq hf] at h
  cases hvalue : set.expandValue inside f.leaf with
  | error cause => rw [hvalue] at h; cases h
  | ok value =>
    rw [hvalue] at h
    cases h
    refine ⟨value, rfl, ?_⟩
    cases special : f.leaf.wellKnown? with
    | some type =>
      rw [expandValue_of_wellKnown special] at hvalue
      cases hvalue
      exact .inl ⟨type, rfl, rfl⟩
    | none =>
      by_cases hk : f.leaf.kind = .message
      · cases found : set.messageOf? f.leaf with
        | some m =>
          rw [expandValue_of_found hk special found] at hvalue
          exact .inr (.inl ⟨m, ⟨hk, special, found⟩, hvalue⟩)
        | none =>
          rw [expandValue_of_missing hk special found] at hvalue
          cases hvalue
      · exact .inr (.inr ((expandValue_of_kind hk).symm.trans hvalue))

/-- A field whose expansion fails is faulty itself, or refers to a message whose expansion fails in
the same way. -/
theorem fault_or_below_of_expandField {f : Field} (hf : set.WellFormed f) {cause : SchemaError}
    (h : set.expandField inside f = .error cause) :
    set.Fault f cause ∨
      ∃ m, ∃ hm : set.RefersTo f m, set.expandMessage inside ⟨m, hm.mem⟩ = .error cause := by
  rcases hf.leaf_cases with ⟨m, hm⟩ | ⟨other, hother⟩ | ⟨schema, hschema⟩
  · rw [expandField_of_refersTo hf hm] at h
    cases hx : set.expandMessage inside ⟨m, hm.mem⟩ with
    | error e => rw [hx] at h; cases h; exact .inr ⟨m, hm, hx⟩
    | ok schema => rw [hx] at h; cases h
  · rw [expandField_of_fault hf hother] at h
    cases h
    exact .inl hother
  · rw [expandField_eq hf, hschema] at h
    cases h

/-! ## Fields in order -/

variable {owner : String}

theorem expandFields_cons_of_ok {f : Field} {schema : Json}
    (h : set.expandField inside f = .ok schema) (rest : List Field) :
    set.expandFields owner inside (f :: rest) =
      (set.expandFields owner inside rest).map (schema :: ·) := by
  rw [expandFields, h]
  cases set.expandFields owner inside rest <;> rfl

theorem expandFields_cons_of_error {f : Field} {cause : SchemaError}
    (h : set.expandField inside f = .error cause) (rest : List Field) :
    set.expandFields owner inside (f :: rest) = .error (.inField owner f.name cause) := by
  rw [expandFields, h]
  rfl

/-- What stands beside one element of a list, and before and after that. -/
theorem forall₂_split {α β : Type} {R : α → β → Prop} {x : α} {after : List α} :
    ∀ {before : List α} {ys : List β}, List.Forall₂ R (before ++ x :: after) ys →
      ∃ first y rest, ys = first ++ y :: rest ∧ List.Forall₂ R before first ∧ R x y ∧
        List.Forall₂ R after rest
  | [], _, .cons hxy hrest => ⟨[], _, _, rfl, .nil, hxy, hrest⟩
  | _ :: _, _, .cons hb htail => by
    obtain ⟨first, y, rest, rfl, hfirst, hxy, hrest⟩ := forall₂_split htail
    exact ⟨_ :: first, y, rest, rfl, .cons hb hfirst, hxy, hrest⟩

theorem exists_forall₂_iff {α β : Type} {R : α → β → Prop} {xs : List α} :
    (∃ ys, List.Forall₂ R xs ys) ↔ ∀ x ∈ xs, ∃ y, R x y := by
  induction xs with
  | nil => exact ⟨fun _ _ hx => absurd hx List.not_mem_nil, fun _ => ⟨[], .nil⟩⟩
  | cons x rest ih =>
    rw [List.forall_mem_cons, ← ih]
    constructor
    · rintro ⟨_, hys⟩
      cases hys with
      | cons hy hrest => exact ⟨⟨_, hy⟩, _, hrest⟩
    · rintro ⟨⟨y, hy⟩, ys, hys⟩
      exact ⟨y :: ys, .cons hy hys⟩

/-- Fields have schemas when each of them has one. -/
theorem expandFields_eq_ok_iff {fields : List Field} {schemas : List Json} :
    set.expandFields owner inside fields = .ok schemas ↔
      List.Forall₂ (fun f schema => set.expandField inside f = .ok schema) fields schemas := by
  induction fields generalizing schemas with
  | nil =>
    rw [expandFields, List.forall₂_nil_left_iff, Except.ok.injEq]
    exact eq_comm
  | cons f rest ih =>
    cases hf : set.expandField inside f with
    | error cause =>
      rw [expandFields_cons_of_error hf]
      constructor
      · intro h; cases h
      · intro h
        cases h with
        | cons hok _ => rw [hf] at hok; cases hok
    | ok schema =>
      rw [expandFields_cons_of_ok hf]
      constructor
      · intro h
        cases hr : set.expandFields owner inside rest with
        | error e => rw [hr] at h; cases h
        | ok others =>
          rw [hr] at h
          cases h
          exact .cons hf (ih.1 hr)
      · intro h
        cases h with
        | cons hok hrest =>
          rw [hf] at hok
          cases hok
          rw [ih.2 hrest]
          rfl

/-- Fields fail at the first of them that fails. -/
theorem expandFields_eq_error_iff {fields : List Field} {e : SchemaError} :
    set.expandFields owner inside fields = .error e ↔
      ∃ before f after cause, fields = before ++ f :: after ∧
        (∀ g ∈ before, ∃ schema, set.expandField inside g = .ok schema) ∧
        set.expandField inside f = .error cause ∧ e = .inField owner f.name cause := by
  induction fields with
  | nil =>
    rw [expandFields]
    constructor
    · intro h; cases h
    · rintro ⟨before, f, after, cause, hsplit, -⟩
      cases before <;> cases hsplit
  | cons g rest ih =>
    cases hg : set.expandField inside g with
    | error cause =>
      rw [expandFields_cons_of_error hg]
      constructor
      · intro h
        cases h
        exact ⟨[], g, rest, cause, rfl, (fun _ hn => by cases hn), hg, rfl⟩
      · rintro ⟨before, f, after, cause', hsplit, hbefore, hf, rfl⟩
        cases before with
        | nil =>
          cases hsplit
          rw [hg] at hf
          cases hf
          rfl
        | cons g' before =>
          cases hsplit
          obtain ⟨schema, hok⟩ := hbefore g List.mem_cons_self
          rw [hg] at hok
          cases hok
    | ok schema =>
      rw [expandFields_cons_of_ok hg]
      constructor
      · intro h
        cases hr : set.expandFields owner inside rest with
        | ok others => rw [hr] at h; cases h
        | error e' =>
          rw [hr] at h
          cases h
          obtain ⟨before, f, after, cause, rfl, hbefore, hf, he⟩ := ih.1 hr
          refine ⟨g :: before, f, after, cause, rfl, fun g' hg' => ?_, hf, he⟩
          rcases List.mem_cons.1 hg' with rfl | hg'
          · exact ⟨schema, hg⟩
          · exact hbefore g' hg'
      · rintro ⟨before, f, after, cause, hsplit, hbefore, hf, he⟩
        cases before with
        | nil =>
          cases hsplit
          rw [hg] at hf
          cases hf
        | cons g' before =>
          cases hsplit
          have hr := ih.2 ⟨before, f, after, cause, rfl,
            fun g' hg' => hbefore g' (List.mem_cons_of_mem _ hg'), hf, he⟩
          rw [hr]
          rfl

/-! ## Messages -/

theorem expandMessage_of_mem {m : set.Message} (h : m.val.fullName ∈ inside) :
    set.expandMessage inside m = .ok bareObject := by
  rw [expandMessage, dif_pos h]

theorem expandMessage_of_not_mem {m : set.Message} (h : m.val.fullName ∉ inside) :
    set.expandMessage inside m =
      (set.expandFields m.val.fullName (m.val.fullName :: inside) m.val.fields).map
        m.val.shell := by
  rw [expandMessage, dif_neg h]

/-- A message inside other messages has a schema when its fields have. -/
theorem expandMessage_eq_ok_iff {m : set.Message} (h : m.val.fullName ∉ inside) {document : Json} :
    set.expandMessage inside m = .ok document ↔
      ∃ schemas, List.Forall₂ (fun f schema =>
          set.expandField (m.val.fullName :: inside) f = .ok schema) m.val.fields schemas ∧
        document = m.val.shell schemas := by
  rw [expandMessage_of_not_mem h]
  constructor
  · intro hd
    cases hs : set.expandFields m.val.fullName (m.val.fullName :: inside) m.val.fields with
    | error e => rw [hs] at hd; cases hd
    | ok schemas =>
      rw [hs] at hd
      cases hd
      exact ⟨schemas, expandFields_eq_ok_iff.1 hs, rfl⟩
  · rintro ⟨schemas, hs, rfl⟩
    rw [expandFields_eq_ok_iff.2 hs]
    rfl

theorem exists_expandMessage_iff {m : set.Message} (h : m.val.fullName ∉ inside) :
    (∃ document, set.expandMessage inside m = .ok document) ↔ ∀ f ∈ m.val.fields,
      ∃ schema, set.expandField (m.val.fullName :: inside) f = .ok schema := by
  rw [← exists_forall₂_iff]
  constructor
  · rintro ⟨document, hdocument⟩
    obtain ⟨schemas, hschemas, -⟩ := (expandMessage_eq_ok_iff h).1 hdocument
    exact ⟨schemas, hschemas⟩
  · rintro ⟨schemas, hschemas⟩
    exact ⟨_, (expandMessage_eq_ok_iff h).2 ⟨schemas, hschemas, rfl⟩⟩

/-- A message fails at the first of its fields that fails. -/
theorem expandMessage_eq_error_iff {m : set.Message} {e : SchemaError} :
    set.expandMessage inside m = .error e ↔
      m.val.fullName ∉ inside ∧ ∃ before f after cause, m.val.fields = before ++ f :: after ∧
        (∀ g ∈ before, ∃ schema, set.expandField (m.val.fullName :: inside) g = .ok schema) ∧
        set.expandField (m.val.fullName :: inside) f = .error cause ∧
        e = .inField m.val.fullName f.name cause := by
  by_cases h : m.val.fullName ∈ inside
  · rw [expandMessage_of_mem h]
    constructor
    · intro he; cases he
    · exact fun he => absurd h he.1
  rw [expandMessage_of_not_mem h, ← expandFields_eq_error_iff]
  cases set.expandFields m.val.fullName (m.val.fullName :: inside) m.val.fields with
  | error e' =>
    constructor
    · intro he; cases he; exact ⟨h, rfl⟩
    · rintro ⟨-, he⟩; cases he; rfl
  | ok schemas =>
    constructor
    · intro he; cases he
    · rintro ⟨-, he⟩; cases he

/-- To prove something of messages inside others, prove it of a message from what holds inside that
message. -/
theorem expansion_induction {P : List String → set.Message → Prop}
    (step : ∀ inside m, (m.val.fullName ∉ inside → ∀ n, P (m.val.fullName :: inside) n) →
      P inside m) (inside : List String) (m : set.Message) : P inside m := by
  induction hr : set.remaining inside using Nat.strongRecOn generalizing inside m with
  | _ count ih =>
    refine step inside m fun h n => ?_
    have hlt := remaining_cons_lt m.property h
    exact ih _ (by omega) _ n rfl

end DescriptorSet

end MessageSchema
