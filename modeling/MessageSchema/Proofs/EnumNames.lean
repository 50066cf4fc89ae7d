import MessageSchema.Proofs.Representation

/-!
# Names for numbers of enum values

Rules for enum values are about numbers, schemas about names. Several values may share a number or a
name, and rules may repeat numbers or give some that no value has. A number stands for the first
value that has it (`EnumType.nameOf?_eq_some_iff`), and a number without a value for nothing; where
nothing is left, any declared name is allowed. Main statement: `Json.withRules_names`.
-/

namespace MessageSchema

namespace EnumType

variable {e : EnumType} {number : Signed32} {name : String}

def Declares (e : EnumType) (number : Signed32) : Prop :=
  ∃ value ∈ e.values, value.number = number

instance (e : EnumType) : DecidablePred e.Declares :=
  fun number => inferInstanceAs (Decidable (∃ value ∈ e.values, value.number = number))

/-- The name is that of the first value with the number. -/
def NamesFirst (e : EnumType) (number : Signed32) (name : String) : Prop :=
  ∃ before value after, e.values = before ++ value :: after ∧
    value.number = number ∧ value.name = name ∧ ∀ other ∈ before, other.number ≠ number

theorem nameOf?_eq_some_iff : e.nameOf? number = some name ↔ e.NamesFirst number name := by
  rw [nameOf?, Option.map_eq_some_iff]
  constructor
  · rintro ⟨value, hfound, hname⟩
    obtain ⟨hnumber, before, after, hsplit, hbefore⟩ := List.find?_eq_some_iff_append.1 hfound
    refine ⟨before, value, after, hsplit, of_decide_eq_true hnumber, hname, ?_⟩
    simpa using hbefore
  · rintro ⟨before, value, after, hsplit, hnumber, hname, hbefore⟩
    have hfound : e.values.find? (·.number = number) = some value := by
      refine List.find?_eq_some_iff_append.2 ⟨decide_eq_true hnumber, before, after, hsplit, ?_⟩
      simpa using hbefore
    exact ⟨value, hfound, hname⟩

theorem nameOf?_eq_none_iff : e.nameOf? number = none ↔ ¬ e.Declares number := by
  simp [nameOf?, Declares]

theorem exists_namesFirst (h : e.Declares number) : ∃ name, e.NamesFirst number name := by
  cases hname : e.nameOf? number with
  | none => exact absurd h (nameOf?_eq_none_iff.1 hname)
  | some name => exact ⟨name, nameOf?_eq_some_iff.1 hname⟩

theorem NamesFirst.exists_value (h : e.NamesFirst number name) :
    ∃ value ∈ e.values, value.name = name ∧ value.number = number := by
  obtain ⟨before, value, after, hsplit, hnumber, hname, -⟩ := h
  exact ⟨value, hsplit ▸ List.mem_append_cons_self, hname, hnumber⟩

/-- Each of the numbers that have values gets a name, in their order. -/
theorem forall₂_namesFirst (numbers : List Signed32) :
    List.Forall₂ e.NamesFirst (numbers.filter (e.Declares ·)) (numbers.filterMap e.nameOf?) := by
  induction numbers with
  | nil => exact .nil
  | cons number rest ih =>
    cases hname : e.nameOf? number with
    | none =>
      have hundeclared := nameOf?_eq_none_iff.1 hname
      rwa [List.filterMap_cons_none hname, List.filter_cons_of_neg (by simpa using hundeclared)]
    | some name =>
      have hfirst := nameOf?_eq_some_iff.1 hname
      have hdeclared : e.Declares number := by
        obtain ⟨value, hvalue, -, hnumber⟩ := hfirst.exists_value
        exact ⟨value, hvalue, hnumber⟩
      rw [List.filterMap_cons_some hname, List.filter_cons_of_pos (by simpa using hdeclared)]
      exact .cons hfirst ih

theorem filterMap_nameOf?_eq_nil_iff {numbers : List Signed32} :
    numbers.filterMap e.nameOf? = [] ↔ ∀ number ∈ numbers, ¬ e.Declares number := by
  simp only [List.filterMap_eq_nil_iff, nameOf?_eq_none_iff]

end EnumType

namespace EnumRules

/-- The names that are allowed under the rules. -/
def names (rules : EnumRules) (e : EnumType) : List String :=
  if rules.among.filterMap e.nameOf? = [] then e.values.map (·.name)
  else rules.among.filterMap e.nameOf?

variable {own : EnumRules} {e : EnumType}

theorem names_of_declared (h : ∃ number ∈ own.among, e.Declares number) :
    own.names e = own.among.filterMap e.nameOf? := by
  obtain ⟨number, hnumber, hdeclared⟩ := h
  have hsome : own.among.filterMap e.nameOf? ≠ [] :=
    fun hnil => EnumType.filterMap_nameOf?_eq_nil_iff.1 hnil number hnumber hdeclared
  rw [names, if_neg hsome]

theorem names_of_undeclared (h : ∀ number ∈ own.among, ¬ e.Declares number) :
    own.names e = e.values.map (·.name) := by
  rw [names, if_pos (EnumType.filterMap_nameOf?_eq_nil_iff.2 h)]

theorem names_ne_nil (hvalues : e.values ≠ []) : own.names e ≠ [] := by
  unfold names
  split
  · simpa using hvalues
  · assumption

theorem exists_value_of_mem_filterMap {name : String} (h : name ∈ own.among.filterMap e.nameOf?) :
    ∃ value ∈ e.values, value.name = name ∧ value.number ∈ own.among := by
  obtain ⟨number, hnumber, hname⟩ := List.mem_filterMap.1 h
  obtain ⟨value, hvalue, hvaluename, rfl⟩ := (EnumType.nameOf?_eq_some_iff.1 hname).exists_value
  exact ⟨value, hvalue, hvaluename, hnumber⟩

theorem exists_value_of_mem_names {name : String} (h : name ∈ own.names e) :
    ∃ value ∈ e.values, value.name = name := by
  unfold names at h
  split at h
  · exact List.mem_map.1 h
  · obtain ⟨value, hvalue, hname, -⟩ := exists_value_of_mem_filterMap h
    exact ⟨value, hvalue, hname⟩

theorem keys_nodup (own : EnumRules) (e : EnumType) :
    ((own.keywords e).map Prod.fst).Nodup := by
  unfold keywords keyword listed
  cases own.const.bind e.nameOf? <;> split <;> simp

end EnumRules

namespace Json

variable {e : EnumType} {rules : FieldRules} {own : EnumRules}

theorem get?_withRules_enum (hown : rules.enum = some own) (key : String) :
    ((Fragment.enumeration (some e)).withRules rules .enum (some e)).get? key =
      (Members.get? key (own.keywords e)).or ((Fragment.enumeration (some e)).get? key) := by
  have hkeywords : rules.keywords .enum (some e) = own.keywords e := by
    rw [FieldRules.keywords, hown]
    rfl
  rw [withRules, hkeywords, Fragment.enumeration_eq]
  exact Members.get?_putAll_of_nodup (own.keys_nodup e)

theorem get?_enum_withRules (hvalues : e.values ≠ []) (hown : rules.enum = some own) :
    ((Fragment.enumeration (some e)).withRules rules .enum (some e)).get? "enum" =
      some (.strings (own.names e)) := by
  have hnames : (Fragment.enumeration (some e)).get? "enum" =
      some (.strings (e.values.map (·.name))) := by
    rw [Fragment.enumeration_eq]
    simp [Fragment.typed, get?, Members.get?, get?_listed, hvalues, strings]
  rw [get?_withRules_enum hown, hnames, EnumRules.keywords, Members.get?_append, get?_keyword,
    get?_listed, EnumRules.names]
  by_cases hnone : own.among.filterMap e.nameOf? = []
  · simp [hnone]
  · simp [hnone, strings]

theorem get?_const_withRules (hown : rules.enum = some own) :
    ((Fragment.enumeration (some e)).withRules rules .enum (some e)).get? "const" =
      (own.const.bind e.nameOf?).map .str := by
  have hnone : (Fragment.enumeration (some e)).get? "const" = none := by
    rw [Fragment.enumeration_eq]
    simp [Fragment.typed, get?, Members.get?, get?_listed]
  rw [get?_withRules_enum hown, hnone, EnumRules.keywords, Members.get?_append, get?_keyword,
    get?_listed]
  simp

/-- **Numbers in rules for enum values become names of the first values that have them.** Of the
numbers that are allowed those with a value are replaced one by one, in order, and if there are none
all names are allowed. A number that is prescribed becomes a name if it has a value, and otherwise
nothing is prescribed. -/
theorem withRules_names (hvalues : e.values ≠ []) (hown : rules.enum = some own) :
    ∃ fragment names, Kind.enum.fragment (some e) = .ok fragment ∧
      (fragment.withRules rules .enum (some e)).get? "enum" = some (.strings names) ∧
      names ≠ [] ∧ (∀ name ∈ names, ∃ value ∈ e.values, value.name = name) ∧
      ((∃ number ∈ own.among, e.Declares number) →
        List.Forall₂ e.NamesFirst (own.among.filter (e.Declares ·)) names ∧
        (∀ name ∈ names, ∃ value ∈ e.values, value.name = name ∧ value.number ∈ own.among) ∧
        (∀ number ∈ own.among, e.Declares number → ∃ name ∈ names, e.NamesFirst number name)) ∧
      ((∀ number ∈ own.among, ¬ e.Declares number) → names = e.values.map (·.name)) ∧
      (∀ number, own.const = some number → e.Declares number → ∃ name, e.NamesFirst number name ∧
        (fragment.withRules rules .enum (some e)).get? "const" = some (.str name)) ∧
      ((∀ number, own.const = some number → ¬ e.Declares number) →
        (fragment.withRules rules .enum (some e)).get? "const" = none) := by
  refine ⟨_, own.names e, rfl, get?_enum_withRules hvalues hown, EnumRules.names_ne_nil hvalues,
    fun name => EnumRules.exists_value_of_mem_names, ?_, EnumRules.names_of_undeclared, ?_, ?_⟩
  · intro hdeclared
    rw [EnumRules.names_of_declared hdeclared]
    refine ⟨EnumType.forall₂_namesFirst own.among,
      fun name => EnumRules.exists_value_of_mem_filterMap, ?_⟩
    intro number hnumber hvalue
    obtain ⟨name, hname⟩ := EnumType.exists_namesFirst hvalue
    refine ⟨name, List.mem_filterMap.2 ⟨number, hnumber, ?_⟩, hname⟩
    exact EnumType.nameOf?_eq_some_iff.2 hname
  · intro number hconst hdeclared
    obtain ⟨name, hname⟩ := EnumType.exists_namesFirst hdeclared
    refine ⟨name, hname, ?_⟩
    rw [get?_const_withRules hown, hconst, Option.bind_some, EnumType.nameOf?_eq_some_iff.2 hname]
    rfl
  · intro hundeclared
    rw [get?_const_withRules hown]
    cases hconst : own.const with
    | none => rfl
    | some number =>
      rw [Option.bind_some, EnumType.nameOf?_eq_none_iff.2 (hundeclared number hconst)]
      rfl

def red : Signed32 := ⟨11, by decide, by decide⟩

def green : Signed32 := ⟨12, by decide, by decide⟩

/-- A number without a value. -/
def amber : Signed32 := ⟨13, by decide, by decide⟩

/-- An enum type in which two values have one number. -/
def signalType : EnumType where
  declaredName := "road.Signal"
  values := [⟨"RED", red⟩, ⟨"STOP", red⟩, ⟨"GREEN", green⟩]

def signalRules : FieldRules where
  enum := some { const := some red, among := [green, amber, red, red] }

def amberRules : FieldRules where
  enum := some { const := some amber, among := [amber] }

theorem signal_names : ∃ fragment names others name,
    Kind.enum.fragment (some signalType) = .ok fragment ∧
    (fragment.withRules signalRules .enum (some signalType)).get? "enum" = some (.strings names) ∧
    List.Forall₂ signalType.NamesFirst [green, red, red] names ∧
    (fragment.withRules signalRules .enum (some signalType)).get? "const" = some (.str name) ∧
    signalType.NamesFirst red name ∧
    (fragment.withRules amberRules .enum (some signalType)).get? "enum" = some (.strings others) ∧
    others = ["RED", "STOP", "GREEN"] ∧
    (fragment.withRules amberRules .enum (some signalType)).get? "const" = none := by
  have hvalues : signalType.values ≠ [] := List.cons_ne_nil _ _
  have hsignal : signalRules.enum = some _ := rfl
  have hamber : amberRules.enum = some _ := rfl
  obtain ⟨fragment, names, hfragment, hnames, -, -, hsome, -, hconst, -⟩ :=
    withRules_names hvalues hsignal
  obtain ⟨same, others, hsame, hothers, -, -, -, hnone, -, hnoconst⟩ :=
    withRules_names hvalues hamber
  obtain rfl := Except.ok.inj (hfragment.symm.trans hsame)
  obtain ⟨name, hname, hasked⟩ := hconst red rfl (by decide)
  obtain ⟨hfirst, -⟩ := hsome ⟨red, by decide, by decide⟩
  refine ⟨fragment, names, others, name, hfragment, hnames, hfirst, hasked, hname, hothers,
    hnone (by decide), hnoconst ?_⟩
  intro number hnumber
  obtain rfl := Option.some.inj hnumber
  decide

end Json

end MessageSchema
