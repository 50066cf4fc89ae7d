import MessageSchema.Descriptor.Loading
import MessageSchema.Proofs.Reference
import MessageSchema.Proofs.RuleTexts

/-!
# Descriptors that are kept as text

A descriptor that has been read from a text, however that spells it, is kept by the text that is
written for it (`descriptors_kept`): what is left out there is what its readers put in. The one
condition is on the numbers of rules for floating-point fields, which must read back unchanged one
by one.
-/

namespace MessageSchema

/-! ## Fields -/

theorem Annotations.kept [DecimalRounding] {room : Nat} {w : Written} {annotations : Annotations}
    (hw : w.FitsIn room) (h : decode? w = some annotations) :
    Kept encode decode? room annotations := by
  unfold decode? at h
  obtain ⟨r, hr, h⟩ := Option.bind_eq_some_iff.1 h
  obtain ⟨description, hdescription, h⟩ := Option.bind_eq_some_iff.1 h
  obtain rfl := Option.some.inj h
  have hfits := (Written.fitsIn_of_record? hr hw).2
  refine Kept.record hr hw rfl rfl (by decide) rfl ?_
  refine (keptField_optional hdescription hfits fun s _ _ => kept_str s).andThen ?_
  exact .done _

theorem kept_kind [DecimalRounding] (room : Nat) (kind : Kind) :
    Kept (fun kind => .str kind.name) (Written.choice? Kind.ofName?) room kind :=
  ⟨trivial, kind.ofName?_name, nofun⟩

theorem kept_cardinality [DecimalRounding] (room : Nat) (cardinality : Cardinality) :
    Kept (fun cardinality => .str cardinality.name) (Written.choice? Cardinality.ofName?) room
      cardinality :=
  ⟨trivial, cardinality.ofName?_name, nofun⟩

namespace Field

theorem encodeMapValue_eq_map (value : Option Field) : encodeMapValue value = value.map encode := by
  cases value with
  | none => rfl
  | some value => rw [encodeMapValue, Option.map_some]

mutual

/-- All rules of a field and of its map values. -/
def allRules : Field → List FieldRules
  | { mapValue, rules, .. } => FieldRules.rulesOfInner rules ++ rulesOfMapValue mapValue

/-- All rules of the values of a map field. -/
def rulesOfMapValue : Option Field → List FieldRules
  | none => []
  | some value => value.allRules

end

theorem mem_allRules_of_rules {f : Field} {rules other : FieldRules} (h : f.rules = some rules)
    (hother : other ∈ rules.allRules) : other ∈ f.allRules := by
  obtain ⟨⟩ := f
  cases h
  exact List.mem_append_left _ hother

theorem mem_allRules_of_mapValue {f value : Field} {other : FieldRules}
    (h : f.mapValue = some value) (hother : other ∈ value.allRules) : other ∈ f.allRules := by
  obtain ⟨⟩ := f
  cases h
  exact List.mem_append_right _ hother

theorem kept [DecimalRounding] {room : Nat} {w : Written} {f : Field} (hw : w.FitsIn room)
    (h : decode? w = some f) (hfloats : ∀ r ∈ f.allRules, r.FloatsReadBack) :
    Kept encode decode? room f := by
  rw [decode?] at h
  obtain ⟨r, hr, h⟩ := Option.bind_eq_some_iff.1 h
  obtain ⟨name, hname, h⟩ := Option.bind_eq_some_iff.1 h
  obtain ⟨jsonName?, hjsonName, h⟩ := Option.bind_eq_some_iff.1 h
  obtain ⟨kind, hkind, h⟩ := Option.bind_eq_some_iff.1 h
  obtain ⟨cardinality, hcardinality, h⟩ := Option.bind_eq_some_iff.1 h
  obtain ⟨presence, hpresence, h⟩ := Option.bind_eq_some_iff.1 h
  obtain ⟨typeName?, htypeName, h⟩ := Option.bind_eq_some_iff.1 h
  obtain ⟨mapValue, hmapValue, h⟩ := Option.bind_eq_some_iff.1 h
  obtain ⟨annotations, hannotations, h⟩ := Option.bind_eq_some_iff.1 h
  obtain ⟨rules, hrules, h⟩ := Option.bind_eq_some_iff.1 h
  have hf := Option.some.inj h
  have hfits := (Written.fitsIn_of_record? hr hw).2
  have hvalue : ∀ {target : Nat}, KeptField (room - 1) "map_value" (fun r : Record target =>
      r.optional? "map_value" decode?) mapValue (encodeMapValue mapValue) := by
    intro target
    rw [encodeMapValue_eq_map]
    refine keptField_optional hmapValue hfits fun value hin ⟨_, hsize, hpart, hdecodes⟩ => ?_
    exact kept hpart hdecodes fun other hother =>
      hfloats other (mem_allRules_of_mapValue (hf ▸ hin) hother)
  have hown : ∀ own ∈ rules, ∀ other ∈ own.allRules, other.FloatsReadBack :=
    fun own hin other hother => hfloats other (mem_allRules_of_rules (hf ▸ hin) hother)
  subst hf
  refine Kept.record hr hw rfl rfl (by decide) (decode?.eq_1 _) ?_
  refine (kept_str name).required.andThen ?_
  refine (keptField_optional hjsonName hfits fun s _ _ => kept_str s).andThen ?_
  refine (kept_kind _ kind).required.andThen ?_
  refine ((kept_cardinality _ cardinality).withDefault .singular).andThen ?_
  refine ((kept_bool presence).withDefault false).andThen ?_
  refine (keptField_optional htypeName hfits fun s _ _ => kept_str s).andThen ?_
  refine hvalue.andThen ?_
  refine (keptField_optional hannotations hfits fun _ _ ⟨_, _, hpart, hdecodes⟩ =>
    Annotations.kept hpart hdecodes).andThen ?_
  refine (keptField_optional hrules hfits fun own hin ⟨_, _, hpart, hdecodes⟩ =>
    FieldRules.kept hpart hdecodes (hown own hin)).andThen ?_
  exact .done _
termination_by sizeOf w

end Field

section Sets

variable [DecimalRounding]

/-! ## Types and sets -/

/-- All rules of the fields of a message type. -/
def MessageType.allRules (m : MessageType) : List FieldRules := m.fields.flatMap (·.allRules)

theorem MessageType.kept {room : Nat} {w : Written} {m : MessageType} (hroom : 2 ≤ room)
    (hw : w.FitsIn room) (h : decode? w = some m) (hfloats : ∀ r ∈ m.allRules, r.FloatsReadBack) :
    Kept encode decode? room m := by
  unfold decode? at h
  obtain ⟨r, hr, h⟩ := Option.bind_eq_some_iff.1 h
  obtain ⟨declaredName, hdeclaredName, h⟩ := Option.bind_eq_some_iff.1 h
  obtain ⟨fields, hfields, h⟩ := Option.bind_eq_some_iff.1 h
  obtain rfl := Option.some.inj h
  have hfits := (Written.fitsIn_of_record? hr hw).2
  have hencode : encode ⟨declaredName, fields⟩ = .ofOptional
      [("full_name", some (.str declaredName)), ("fields", some (.arr (fields.map (·.encode))))] :=
    rfl
  refine Kept.record hr hw hencode rfl (by decide) rfl ?_
  refine (kept_str declaredName).required.andThen ?_
  refine (keptField_list (by omega) hfields hfits fun f hf ⟨_, hitem, hdecodes⟩ =>
    Field.kept hitem hdecodes fun r hr =>
      hfloats r (List.mem_flatMap.2 ⟨f, hf, hr⟩)).andThen ?_
  exact .done _

theorem EnumValue.kept {room : Nat} {w : Written} {v : EnumValue} (hw : w.FitsIn room)
    (h : decode? w = some v) : Kept encode decode? room v := by
  unfold decode? at h
  obtain ⟨r, hr, h⟩ := Option.bind_eq_some_iff.1 h
  obtain ⟨name, hname, h⟩ := Option.bind_eq_some_iff.1 h
  obtain ⟨number, hnumber, h⟩ := Option.bind_eq_some_iff.1 h
  obtain rfl := Option.some.inj h
  have hencode : encode ⟨name, number⟩ = .ofOptional
      [("name", some (.str name)), ("number", some (RuleEncoding.encode number))] := rfl
  refine Kept.record hr hw hencode rfl (by decide) rfl ?_
  refine (kept_str name).required.andThen ?_
  refine (kept_signed32 number).required.andThen ?_
  exact .done _

theorem EnumType.kept {room : Nat} {w : Written} {e : EnumType} (hroom : 2 ≤ room)
    (hw : w.FitsIn room) (h : decode? w = some e) : Kept encode decode? room e := by
  unfold decode? at h
  obtain ⟨r, hr, h⟩ := Option.bind_eq_some_iff.1 h
  obtain ⟨declaredName, hdeclaredName, h⟩ := Option.bind_eq_some_iff.1 h
  obtain ⟨values, hvalues, h⟩ := Option.bind_eq_some_iff.1 h
  obtain rfl := Option.some.inj h
  have hfits := (Written.fitsIn_of_record? hr hw).2
  have hencode : encode ⟨declaredName, values⟩ = .ofOptional
      [("full_name", some (.str declaredName)), ("values", some (.arr (values.map (·.encode))))] :=
    rfl
  refine Kept.record hr hw hencode rfl (by decide) rfl ?_
  refine (kept_str declaredName).required.andThen ?_
  refine (keptField_list (by omega) hvalues hfits fun _ _ ⟨_, hitem, hdecodes⟩ =>
    EnumValue.kept hitem hdecodes).andThen ?_
  exact .done _

/-- All rules of the fields of all message types. -/
def DescriptorSet.allRules (set : DescriptorSet) : List FieldRules :=
  set.messages.flatMap (·.allRules)

/-- The lists of a set are written also where they are empty, as are those of its types. -/
theorem DescriptorSet.kept {room : Nat} {w : Written} {set : DescriptorSet} (hroom : 4 ≤ room)
    (hw : w.FitsIn room) (h : decode? w = some set)
    (hfloats : ∀ r ∈ set.allRules, r.FloatsReadBack) : Kept encode decode? room set := by
  unfold decode? at h
  obtain ⟨r, hr, h⟩ := Option.bind_eq_some_iff.1 h
  obtain ⟨messages, hmessages, h⟩ := Option.bind_eq_some_iff.1 h
  obtain ⟨enums, henums, h⟩ := Option.bind_eq_some_iff.1 h
  obtain rfl := Option.some.inj h
  have hfits := (Written.fitsIn_of_record? hr hw).2
  have hencode : encode ⟨messages, enums⟩ = .ofOptional
      [("messages", some (.arr (messages.map (·.encode)))),
        ("enums", some (.arr (enums.map (·.encode))))] := rfl
  refine Kept.record hr hw hencode rfl (by decide) rfl ?_
  refine (keptField_list (by omega) hmessages hfits fun m hm ⟨_, hitem, hdecodes⟩ =>
    MessageType.kept (by omega) hitem hdecodes fun r hr =>
      hfloats r (List.mem_flatMap.2 ⟨m, hm, hr⟩)).andThen ?_
  refine (keptField_list (by omega) henums hfits fun _ _ ⟨_, hitem, hdecodes⟩ =>
    EnumType.kept (by omega) hitem hdecodes).andThen ?_
  exact .done _

/-! ## Texts -/

/-- The value that a text is read as. -/
def readAs? {α : Type} (decode? : Written → Option α) (text : String) : Option α :=
  (Written.read? text).bind decode?

theorem exists_fitsIn_of_readAs? {α : Type} {decode? : Written → Option α} {text : String} {x : α}
    (h : readAs? decode? text = some x) :
    ∃ w : Written, w.FitsIn Written.greatestDepth ∧ decode? w = some x := by
  obtain ⟨w, hw, hdecodes⟩ := Option.bind_eq_some_iff.1 h
  exact ⟨w, Written.fitsIn_of_read? hw, hdecodes⟩

theorem Kept.readAs?_compact {α : Type} {encode : α → Json} {decode? : Written → Option α} {x : α}
    (h : Kept encode decode? Written.greatestDepth x) :
    readAs? decode? (encode x).compact = some x := by
  rw [readAs?, Json.read?_compact h.readable, Option.bind_some, h.decodes]

/-- Whatever is read from a text, with numbers that read back unchanged in all of its rules, is
read again from the text that is written for it, and that text is written for it again. -/
def KeptByText {α : Type} (encode : α → Json) (decode? : Written → Option α)
    (rulesOf : α → List FieldRules) : Prop :=
  ∀ text x, readAs? decode? text = some x → (∀ r ∈ rulesOf x, r.FloatsReadBack) →
    ∃ again, readAs? decode? (encode x).compact = some again ∧ again = x ∧
      (encode again).compact = (encode x).compact

theorem keptByText_of_kept {α : Type} {encode : α → Json} {decode? : Written → Option α}
    {rulesOf : α → List FieldRules}
    (h : ∀ {w : Written} {x : α}, w.FitsIn Written.greatestDepth → decode? w = some x →
      (∀ r ∈ rulesOf x, r.FloatsReadBack) → Kept encode decode? Written.greatestDepth x) :
    KeptByText encode decode? rulesOf := by
  intro text x hread hfloats
  obtain ⟨w, hw, hdecodes⟩ := exists_fitsIn_of_readAs? hread
  exact ⟨x, (h hw hdecodes hfloats).readAs?_compact, rfl, rfl⟩

/-- **Descriptors are kept by the text that is written for them.** A set, a message type, a field,
the rules of a field or an enum type that a text is read as, in whatever spelling, is read again
from the one line that is written for it. -/
theorem descriptors_kept :
    KeptByText DescriptorSet.encode DescriptorSet.decode? DescriptorSet.allRules ∧
    KeptByText MessageType.encode MessageType.decode? MessageType.allRules ∧
    KeptByText Field.encode Field.decode? Field.allRules ∧
    KeptByText FieldRules.encode FieldRules.decode? FieldRules.allRules ∧
    KeptByText EnumType.encode EnumType.decode? fun _ => [] := by
  have hdepth : 4 ≤ Written.greatestDepth := by decide
  refine ⟨keptByText_of_kept ?_, keptByText_of_kept ?_, keptByText_of_kept ?_,
    keptByText_of_kept ?_, keptByText_of_kept ?_⟩
  · exact fun hw h hfloats => DescriptorSet.kept hdepth hw h hfloats
  · exact fun hw h hfloats => MessageType.kept (by omega) hw h hfloats
  · exact fun hw h hfloats => Field.kept hw h hfloats
  · exact fun hw h hfloats => FieldRules.kept hw h hfloats
  · exact fun hw h _ => EnumType.kept (by omega) hw h

end Sets

/-- One half. -/
def half : Double := .finite ⟨false, 4503599627370496, -53, by decide⟩

/-- A field as a list of its parts, with its kind as the key of an object and a key that means
nothing among its rules. -/
def shareText : String :=
  "[\"share\", null, \x7b\"double\": null\x7d, \"singular\", false, null, null, null, " ++
    "\x7b\"double\": \x7b\"gt\": 5e-1, \"note\": []\x7d\x7d]"

theorem share_kept : ∃ f, readAs? Field.decode? shareText = some f ∧
    f.allRules.map (·.double) = [some { greater := some half }] ∧
    readAs? Field.decode? f.encode.compact = some f := by
  obtain ⟨f, hread, hf⟩ : ∃ f, readAs? Field.decode? shareText = some f ∧
      f.allRules.map (fun r => (r.float, r.double)) = [(none, some { greater := some half })] := by
    have hany : (readAs? Field.decode? shareText).any (fun f => decide
        (f.allRules.map (fun r => (r.float, r.double)) =
          [(none, some { greater := some half })])) = true := by decide +kernel
    obtain ⟨f, hread, hf⟩ := (Option.any_eq_true _ _).1 hany
    exact ⟨f, hread, of_decide_eq_true hf⟩
  have hhalf : ReadsBack half := by
    unfold ReadsBack
    decide +kernel
  have hfloats : ∀ r ∈ f.allRules, r.FloatsReadBack := by
    intro r hr
    have hpair := List.mem_map_of_mem (f := fun r => (r.float, r.double)) hr
    rw [hf, List.mem_singleton, Prod.mk.injEq] at hpair
    refine ⟨fun own hown => ?_, fun own hown v hv => ?_⟩
    · rw [hpair.1] at hown
      cases hown
    · rw [hpair.2] at hown
      cases hown
      obtain rfl := List.mem_singleton.1 hv
      exact hhalf
  obtain ⟨again, hagain, rfl, -⟩ := descriptors_kept.2.2.1 shareText f hread hfloats
  refine ⟨again, hread, ?_, hagain⟩
  have hdoubles := congrArg (List.map Prod.snd) hf
  rwa [List.map_map] at hdoubles

end MessageSchema
