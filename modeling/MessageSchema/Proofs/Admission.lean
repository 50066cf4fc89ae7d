import MessageSchema.Descriptor.Construction
import MessageSchema.Proofs.Reference

/-!
# Which sets are pools

A set is a pool exactly if no type name is declared twice, a leading dot apart, and every field is
well formed. Otherwise the first offence is reported (`DescriptorSet.FirstOffence`): a name that
repeats an earlier one comes before all fields, and of the fields the first that is not well formed
counts, with what is first wrong with it on the way through its layers of maps
(`DescriptorSet.Offends`). Names are looked up in the whole set, so types may be declared after the
fields that refer to them. Main statement: `Pool.ofSet_admits`.
-/

namespace MessageSchema

/-! ## Names that are repeated -/

/-- The name repeats an earlier one, and no name before it does. -/
def FirstRepeat (names : List String) (name : String) : Prop :=
  ∃ before after, names = before ++ name :: after ∧ before.Nodup ∧ name ∈ before

theorem firstRepeated?_eq_some {seen names : List String} {name : String}
    (h : firstRepeated? seen names = some name) : ∃ before after, names = before ++ name :: after ∧
      before.Nodup ∧ (∀ other ∈ before, other ∉ seen) ∧ name ∈ seen ++ before := by
  induction names generalizing seen with
  | nil => cases h
  | cons first rest ih =>
    rw [firstRepeated?] at h
    by_cases hs : first ∈ seen
    · rw [if_pos hs] at h
      cases h
      exact ⟨[], rest, rfl, List.nodup_nil, by simp, by simpa using hs⟩
    · rw [if_neg hs] at h
      obtain ⟨before, after, rfl, hnodup, hnew, hname⟩ := ih h
      refine ⟨first :: before, after, rfl, ?_, ?_, ?_⟩
      · exact List.nodup_cons.2 ⟨fun hin => hnew first hin List.mem_cons_self, hnodup⟩
      · intro other hin
        rcases List.mem_cons.1 hin with rfl | hin
        · exact hs
        · exact fun hseen => hnew other hin (List.mem_cons_of_mem _ hseen)
      · simp only [List.cons_append, List.mem_cons, List.mem_append] at hname ⊢
        tauto

/-- Distinct names that are new are passed over. -/
theorem firstRepeated?_append {seen before : List String} (rest : List String)
    (hnodup : before.Nodup) (hnew : ∀ name ∈ before, name ∉ seen) :
    firstRepeated? seen (before ++ rest) = firstRepeated? (before.reverse ++ seen) rest := by
  induction before generalizing seen with
  | nil => rfl
  | cons first before ih =>
    obtain ⟨hfirst, hnodup⟩ := List.nodup_cons.1 hnodup
    have hnew' : ∀ name ∈ before, name ∉ first :: seen := by
      intro name hin hseen
      rcases List.mem_cons.1 hseen with rfl | hseen
      · exact hfirst hin
      · exact hnew name (List.mem_cons_of_mem _ hin) hseen
    rw [List.cons_append, firstRepeated?, if_neg (hnew first List.mem_cons_self), ih hnodup hnew']
    simp

theorem firstRepeated?_eq_some_iff {names : List String} {name : String} :
    firstRepeated? [] names = some name ↔ FirstRepeat names name := by
  constructor
  · intro h
    obtain ⟨before, after, hsplit, hnodup, -, hname⟩ := firstRepeated?_eq_some h
    exact ⟨before, after, hsplit, hnodup, hname⟩
  · rintro ⟨before, after, rfl, hnodup, hname⟩
    rw [firstRepeated?_append _ hnodup (by simp), firstRepeated?, if_pos (by simpa using hname)]

theorem firstRepeated?_eq_none_iff {names : List String} :
    firstRepeated? [] names = none ↔ names.Nodup := by
  constructor
  · exact fun h => (DescriptorSet.nodup_of_firstRepeated? h).1
  · intro h
    have hnew : ∀ name ∈ names, name ∉ ([] : List String) := by simp
    have happend := firstRepeated?_append [] h hnew
    rwa [List.append_nil] at happend

namespace DescriptorSet

variable {set : DescriptorSet} {message : String}

/-! ## Fields that are not well formed -/

/-- A type of the name is declared in the set or well known, as the kind asks for it. -/
def Declares (set : DescriptorSet) (kind : Kind) (typeName : String) : Prop :=
  match kind with
  | .message => (∃ type : WellKnown, type.fullName = plainName typeName) ∨
      ∃ m ∈ set.messages, m.fullName = plainName typeName
  | .enum => ∃ e ∈ set.enums, e.fullName = plainName typeName
  | _ => True

theorem isSome_ofName?_iff {name : String} :
    (WellKnown.ofName? name).isSome = true ↔
      ∃ type : WellKnown, type.fullName = plainName name := by
  unfold WellKnown.ofName?
  rw [List.find?_isSome]
  constructor
  · rintro ⟨type, -, htype⟩
    exact ⟨type, eq_of_beq htype⟩
  · rintro ⟨type, htype⟩
    exact ⟨type, type.mem_all, beq_iff_eq.2 htype⟩

theorem resolves_iff {kind : Kind} {typeName : String} :
    set.resolves kind typeName = true ↔ set.Declares kind typeName := by
  unfold resolves Declares
  cases kind with
  | message =>
    simp only [Bool.or_eq_true, isSome_ofName?_iff, message?, List.find?_isSome, beq_iff_eq]
  | enum => simp only [enum?, List.find?_isSome, beq_iff_eq]
  | _ => simp

/-- What is first wrong with a field of a message: its name comes before its layers of maps, and
these before what the innermost of them refers to. -/
inductive Offends (set : DescriptorSet) (message : String) : Field → DescriptorError → Prop
  | unnamed {f : Field} (unnamed : f.name = "") : Offends set message f (.emptyFieldName message)
  | noValues {f : Field} (named : f.name ≠ "") (layer : f.cardinality = .map)
      (missing : f.mapValue = none) : Offends set message f (.missingMapValue message f.name)
  | values {f value : Field} {e : DescriptorError} (named : f.name ≠ "")
      (layer : f.cardinality = .map) (values : f.mapValue = some value)
      (below : Offends set message value e) : Offends set message f e
  | untyped {f : Field} (named : f.name ≠ "") (single : f.cardinality ≠ .map)
      (needed : f.kind.isNamed = true) (missing : f.typeName? = none) :
      Offends set message f (.missingTypeName message f.name f.kind)
  | unresolved {f : Field} {typeName : String} (named : f.name ≠ "")
      (single : f.cardinality ≠ .map) (needed : f.kind.isNamed = true)
      (written : f.typeName? = some typeName) (unknown : ¬ set.Declares f.kind typeName) :
      Offends set message f (.unresolvedType message f.name typeName)

section Equations

variable {f : Field}

theorem fieldOffence?_of_unnamed (unnamed : f.name = "") :
    set.fieldOffence? message f = some (.emptyFieldName message) := by
  cases f
  simp only at unnamed
  rw [fieldOffence?, if_pos unnamed]

theorem fieldOffence?_of_map (named : f.name ≠ "") (layer : f.cardinality = .map) :
    set.fieldOffence? message f = set.mapValueOffence? message f.name f.mapValue := by
  cases f
  simp only at named layer
  rw [fieldOffence?, if_neg named, if_pos layer]

theorem fieldOffence?_of_single (named : f.name ≠ "") (single : f.cardinality ≠ .map) :
    set.fieldOffence? message f = set.referenceOffence? message f.name f.kind f.typeName? := by
  cases f
  simp only at named single
  rw [fieldOffence?, if_neg named, if_neg single]

end Equations

theorem offends_of_referenceOffence? {f : Field} {e : DescriptorError} (named : f.name ≠ "")
    (single : f.cardinality ≠ .map)
    (h : set.referenceOffence? message f.name f.kind f.typeName? = some e) :
    set.Offends message f e := by
  unfold referenceOffence? at h
  by_cases needed : f.kind.isNamed = true
  · rw [if_pos needed] at h
    cases written : f.typeName? with
    | none =>
      rw [written] at h
      cases h
      exact .untyped named single needed written
    | some typeName =>
      simp only [written] at h
      by_cases hr : set.resolves f.kind typeName = true
      · rw [if_pos hr] at h
        cases h
      · rw [if_neg hr] at h
        cases h
        exact .unresolved named single needed written fun hd => hr (resolves_iff.2 hd)
  · rw [if_neg needed] at h
    cases h

theorem offends_of_fieldOffence? {e : DescriptorError} :
    ∀ {f : Field}, set.fieldOffence? message f = some e → set.Offends message f e
  | { name, jsonName?, kind, cardinality, presence, typeName?, mapValue, annotations, rules },
    h => by
    by_cases named : name = ""
    · rw [fieldOffence?_of_unnamed named] at h
      cases h
      exact .unnamed named
    by_cases layer : cardinality = .map
    · rw [fieldOffence?_of_map named layer] at h
      cases mapValue with
      | none =>
        cases h
        exact .noValues named layer rfl
      | some value => exact .values named layer rfl (offends_of_fieldOffence? h)
    · rw [fieldOffence?_of_single named layer] at h
      exact offends_of_referenceOffence? named layer h

/-- The offence of a field is what is first wrong with it. -/
theorem fieldOffence?_eq_some_iff {f : Field} {e : DescriptorError} :
    set.fieldOffence? message f = some e ↔ set.Offends message f e := by
  refine ⟨offends_of_fieldOffence?, fun h => ?_⟩
  induction h with
  | unnamed unnamed => exact fieldOffence?_of_unnamed unnamed
  | noValues named layer missing =>
    rw [fieldOffence?_of_map named layer, missing, mapValueOffence?]
  | values named layer values _ ih =>
    rw [fieldOffence?_of_map named layer, values, mapValueOffence?, ih]
  | untyped named single needed missing =>
    rw [fieldOffence?_of_single named single]
    simp only [referenceOffence?, if_pos needed, missing]
  | unresolved named single needed written unknown =>
    rw [fieldOffence?_of_single named single]
    simp only [referenceOffence?, if_pos needed, written]
    exact if_neg fun hr => unknown (resolves_iff.1 hr)

/-! ## Sets -/

/-- What is reported of a set: the first name that repeats an earlier one; where there is none, what
is wrong with the first field that is not well formed. -/
inductive FirstOffence (set : DescriptorSet) : DescriptorError → Prop
  | repeated {name : String} (first : FirstRepeat set.names name) :
      FirstOffence set (.duplicateType name)
  | field {before after : List MessageType} {m : MessageType} {first rest : List Field} {f : Field}
      {e : DescriptorError} (distinct : set.names.Nodup)
      (messages : set.messages = before ++ m :: after) (fields : m.fields = first ++ f :: rest)
      (earlier : ∀ k ∈ before, ∀ g ∈ k.fields, set.WellFormed g)
      (passed : ∀ g ∈ first, set.WellFormed g) (offends : set.Offends m.declaredName f e) :
      FirstOffence set e

theorem offence?_of_nodup (h : set.names.Nodup) : set.offence? =
    set.messages.findSome? fun m => m.fields.findSome? (set.fieldOffence? m.declaredName) := by
  rw [offence?, firstRepeated?_eq_none_iff.2 h]

theorem offence?_eq_some_iff {e : DescriptorError} :
    set.offence? = some e ↔ set.FirstOffence e := by
  constructor
  · intro h
    cases repeated : firstRepeated? [] set.names with
    | some name =>
      rw [offence?, repeated] at h
      cases h
      exact .repeated (firstRepeated?_eq_some_iff.1 repeated)
    | none =>
      have distinct := firstRepeated?_eq_none_iff.1 repeated
      rw [offence?_of_nodup distinct] at h
      obtain ⟨before, m, after, messages, hm, earlier⟩ := List.findSome?_eq_some_iff.1 h
      obtain ⟨first, f, rest, fields, hf, passed⟩ := List.findSome?_eq_some_iff.1 hm
      refine .field distinct messages fields (fun k hk g hg => ?_) (fun g hg => ?_)
        (fieldOffence?_eq_some_iff.1 hf)
      · exact fieldOffence?_eq_none_iff.1 (List.findSome?_eq_none_iff.1 (earlier k hk) g hg)
      · exact fieldOffence?_eq_none_iff.1 (passed g hg)
  · rintro (first | ⟨distinct, messages, fields, earlier, passed, offends⟩)
    · rw [offence?, firstRepeated?_eq_some_iff.2 first]
    · rw [offence?_of_nodup distinct]
      refine List.findSome?_eq_some_iff.2 ⟨_, _, _, messages, ?_, fun k hk => ?_⟩
      · refine List.findSome?_eq_some_iff.2
          ⟨_, _, _, fields, fieldOffence?_eq_some_iff.2 offends, ?_⟩
        exact fun g hg => fieldOffence?_eq_none_iff.2 (passed g hg)
      · exact List.findSome?_eq_none_iff.2 fun g hg =>
          fieldOffence?_eq_none_iff.2 (earlier k hk g hg)

/-- A set has no offence if its names are distinct and its fields well formed. -/
theorem offence?_eq_none_iff_wellFormed : set.offence? = none ↔
    set.names.Nodup ∧ ∀ m ∈ set.messages, ∀ f ∈ m.fields, set.WellFormed f := by
  rw [offence?_eq_none_iff, firstRepeated?_eq_none_iff]
  simp only [fieldOffence?_eq_none_iff]

/-- A field is well formed if it has a name, its values are if it is a map, and else it refers to a
type that is there if its kind asks for one. -/
theorem wellFormed_iff {f : Field} : set.WellFormed f ↔ f.name ≠ "" ∧
    (f.cardinality = .map → ∃ value, f.mapValue = some value ∧ set.WellFormed value) ∧
    (f.cardinality ≠ .map → f.kind.isNamed = true →
      ∃ typeName, f.typeName? = some typeName ∧ set.Declares f.kind typeName) := by
  by_cases layer : f.cardinality = .map
  · rw [wellFormed_map_iff layer]
    exact and_congr_right fun _ => ⟨fun h => ⟨fun _ => h, fun hn => absurd layer hn⟩,
      fun h => h.1 layer⟩
  · rw [wellFormed_single_iff layer]
    simp only [resolves_iff]
    exact and_congr_right fun _ => ⟨fun h => ⟨fun hm => absurd hm layer, fun _ => h⟩,
      fun h => h.2 layer⟩

end DescriptorSet

namespace Pool

open DescriptorSet

theorem ofSet_eq_error_iff {set : DescriptorSet} {e : DescriptorError} :
    Pool.ofSet set = .error e ↔ set.offence? = some e := by
  unfold Pool.ofSet
  split
  · next other hother => rw [hother, Except.error.injEq, Option.some.injEq]
  · next hnone => simp [hnone]

/-- **A set is a pool exactly if its names are distinct and its fields well formed, and otherwise
its first offence is reported.** Of a map field only the values count, whatever its own kind and
type are; any other field has to refer to a type of the set, or a well-known one, if its kind asks
for a type. -/
theorem ofSet_admits (set : DescriptorSet) :
    ((∃ pool, Pool.ofSet set = .ok pool ∧ pool.set = set) ↔
      set.names.Nodup ∧ ∀ m ∈ set.messages, ∀ f ∈ m.fields, set.WellFormed f) ∧
    (∀ e, Pool.ofSet set = .error e ↔ set.FirstOffence e) ∧
    ∀ f, set.WellFormed f ↔ f.name ≠ "" ∧
      (f.cardinality = .map → ∃ value, f.mapValue = some value ∧ set.WellFormed value) ∧
      (f.cardinality ≠ .map → f.kind.isNamed = true →
        ∃ typeName, f.typeName? = some typeName ∧ set.Declares f.kind typeName) := by
  refine ⟨?_, fun e => ofSet_eq_error_iff.trans offence?_eq_some_iff, fun f => wellFormed_iff⟩
  rw [← offence?_eq_none_iff_wellFormed, ← exists_ofSet_iff]
  exact ⟨fun ⟨pool, hpool, _⟩ => ⟨pool, hpool⟩,
    fun ⟨pool, hpool⟩ => ⟨pool, hpool, set_of_ofSet hpool⟩⟩

/-- The values of the values are of no type that is there; the message is named as it is
declared. -/
example : DescriptorSet.offence?
    { messages := [{ declaredName := ".a.M", fields := [.mapOf "rows"
        (.mapOf "row" (.ofMessage "cell" "a.Cell")), .plain "" .group] }] } =
    some (.unresolvedType ".a.M" "cell" "a.Cell") := by decide

end Pool

end MessageSchema
