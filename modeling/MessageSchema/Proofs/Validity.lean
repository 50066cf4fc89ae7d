import MessageSchema.Proofs.Members
import MessageSchema.Verify.Vocabulary

/-!
# Schemas whose faults are known

`HasOnly Q schema`: the schema is an object, and what can be wrong with it is in `Q`. That is said
keyword by keyword, so that it holds of a schema into which members with this property are put
(`HasOnly.putAll`), and of one that stands in another under a keyword for schemas
(`KeywordHasOnly.of_schema`).
-/

namespace MessageSchema

namespace Json

/-! ## Keys and types -/

section

variable {schema : Json} {key : String}

theorem membersMention_iff {key : String} {members : Members} :
    membersMention key members = true ↔
      ∃ entry ∈ members, entry.1 = key ∨ entry.2.mentions key = true := by
  induction members with
  | nil =>
    constructor
    · intro h; cases h
    · rintro ⟨_, h, -⟩; cases h
  | cons entry rest ih =>
    rw [membersMention, Bool.or_eq_true, Bool.or_eq_true, beq_iff_eq, ih]
    simp only [List.mem_cons, exists_eq_or_imp]

theorem itemsMention_append (first second : List Json) :
    itemsMention key (first ++ second) = (itemsMention key first || itemsMention key second) := by
  induction first with
  | nil => rfl
  | cons item rest ih => rw [List.cons_append, itemsMention, itemsMention, ih, Bool.or_assoc]

theorem itemsMention_eq_false {items : List Json} (h : ∀ item ∈ items, item.mentions key = false) :
    itemsMention key items = false := by
  induction items with
  | nil => rfl
  | cons item rest ih =>
    rw [itemsMention, h item List.mem_cons_self, Bool.false_or]
    exact ih fun item hin => h item (List.mem_cons_of_mem _ hin)

theorem mentions_strings (names : List String) : (strings names).mentions key = false := by
  refine itemsMention_eq_false fun item hin => ?_
  obtain ⟨name, -, rfl⟩ := List.mem_map.1 hin
  rfl

theorem containsRef_strings (names : List String) : (strings names).containsRef = false :=
  mentions_strings names

/-- The schema names one type, which is not null. -/
def Typed (schema : Json) : Prop :=
  ∃ type ∈ typeNames, type ≠ "null" ∧ schema.get? "type" = some (.str type)

theorem Typed.of_type {type : String} (h : schema.get? "type" = some (.str type))
    (htype : type ∈ typeNames ∧ type ≠ "null" := by decide) : schema.Typed :=
  ⟨type, htype.1, htype.2, h⟩

theorem Typed.of_get? {other : Json} (h : schema.Typed)
    (heq : other.get? "type" = schema.get? "type") : other.Typed := by
  obtain ⟨type, htype, hnull, hat⟩ := h
  exact ⟨type, htype, hnull, heq.trans hat⟩

end

/-! ## One keyword after the other -/

variable [PatternSyntax]

/-- The keywords that bear on more than their own value: a reference, and the parts of a
condition. -/
def special : List String := ["$ref", "if", "then", "else"]

/-- What is wrong with the value of a keyword by itself. -/
def keywordFault? (key : String) (value : Json) : Option Fault :=
  keywordsFault? true [] [(key, value)]

/-- The keyword asks for no schemas in its value. -/
def isPlain (key : String) : Bool :=
  key ∉ special && Shape.ofKeyword [] key ∉ ([.schema, .kept, .schemas, .named, .namedKept,
    .matched, .dependencies] : List Shape)

section Keyword

variable {key : String} {value : Json} {siblings : List String}

theorem keywordsFault?_cons (rest : Members) :
    keywordsFault? true siblings ((key, value) :: rest) =
      (keywordsFault? true siblings [(key, value)]).or (keywordsFault? true siblings rest) := by
  cases value with
  | arr items => cases items <;> simp only [keywordsFault?, Option.or_none]
  | _ => simp only [keywordsFault?, Option.or_none]

theorem keywordsFault?_singleton (h : key ∉ special) :
    keywordsFault? true siblings [(key, value)] = keywordFault? key value := by
  have hshape : Shape.ofKeyword siblings key = Shape.ofKeyword [] key := by
    simp only [special, List.mem_cons, List.not_mem_nil, or_false, not_or] at h
    simp only [Shape.ofKeyword, h, false_or, false_and, if_false]
  cases value with
  | arr items => cases items <;> simp only [keywordFault?, keywordsFault?, hshape]
  | _ => simp only [keywordFault?, keywordsFault?, hshape]

/-! What a keyword asks of its value is told by its shape. -/

theorem keywordFault?_of_schema (h : Shape.ofKeyword [] key = .schema) :
    keywordFault? key value = schemaFault? true value := by
  cases value with
  | arr items => cases items <;> simp only [keywordFault?, keywordsFault?, h, Option.or_none]
  | _ => simp only [keywordFault?, keywordsFault?, h, Option.or_none]

theorem keywordFault?_of_named {members : Members} (h : Shape.ofKeyword [] key = .named) :
    keywordFault? key (.obj members) = namedFault? true members := by
  simp only [keywordFault?, keywordsFault?, h, Option.or_none]

theorem keywordFault?_of_schemas {first : Json} {rest : List Json}
    (h : Shape.ofKeyword [] key = .schemas) :
    keywordFault? key (.arr (first :: rest)) = schemasFault? true (first :: rest) := by
  simp only [keywordFault?, keywordsFault?, h, Option.or_none]

theorem keywordFault?_of_plain (h : isPlain key = true) :
    keywordFault? key value = plainFault? true (Shape.ofKeyword [] key) value := by
  simp only [isPlain, Bool.and_eq_true, decide_eq_true_eq] at h
  obtain ⟨-, hplain⟩ := h
  cases value with
  | arr items =>
    cases items <;> simp only [keywordFault?, keywordsFault?, Option.or_none] <;>
      split <;> first | rfl | exact absurd hplain (by simp [*])
  | _ =>
    simp only [keywordFault?, keywordsFault?, Option.or_none]
    split <;> first | rfl | exact absurd hplain (by simp [*])

end Keyword

/-- The value of a keyword has no faults but those in `Q`, and the keyword is not special. -/
structure KeywordHasOnly (Q : Fault → Prop) (key : String) (value : Json) : Prop where
  usual : key ∉ special
  closed : value.containsRef = true → Q .reference
  sound : ∀ fault, keywordFault? key value = some fault → Q fault

end Json

open Json

variable [PatternSyntax]

/-! ## Members -/

/-- The members are keywords whose values have no faults but those in `Q`. -/
def Members.HasOnly (Q : Fault → Prop) (members : Members) : Prop :=
  ∀ entry ∈ members, KeywordHasOnly Q entry.1 entry.2

namespace Members.HasOnly

variable {Q : Fault → Prop} {members added : Members}

theorem nil : HasOnly Q [] := fun _ h => absurd h List.not_mem_nil

theorem cons {key : String} {value : Json} (hf : KeywordHasOnly Q key value)
    (hr : HasOnly Q members) : HasOnly Q ((key, value) :: members) := by
  intro entry h
  rcases List.mem_cons.1 h with rfl | h
  · exact hf
  · exact hr entry h

theorem append (hf : HasOnly Q members) (hs : HasOnly Q added) : HasOnly Q (members ++ added) := by
  intro entry h
  rcases List.mem_append.1 h with h | h
  · exact hf entry h
  · exact hs entry h

theorem putAll (hf : HasOnly Q members) (hs : HasOnly Q added) :
    HasOnly Q (Members.putAll members added) := by
  intro entry h
  rcases mem_putAll h with h | h
  · exact hf entry h
  · exact hs entry h

theorem fault {siblings : List String} {fault : Fault} (h : HasOnly Q members)
    (hf : keywordsFault? true siblings members = some fault) : Q fault := by
  induction members with
  | nil => cases hf
  | cons entry rest ih =>
    obtain ⟨key, value⟩ := entry
    have hfirst := h (key, value) List.mem_cons_self
    rw [keywordsFault?_cons, keywordsFault?_singleton hfirst.usual, Option.or_eq_some_iff] at hf
    rcases hf with hf | ⟨-, hf⟩
    · exact hfirst.sound fault hf
    · exact ih (fun entry hin => h entry (List.mem_cons_of_mem _ hin)) hf

theorem reference (h : HasOnly Q members) (hm : membersMention "$ref" members = true) :
    Q .reference := by
  obtain ⟨entry, hin, hkey | hvalue⟩ := membersMention_iff.1 hm
  · exact absurd (hkey ▸ List.mem_cons_self) (h entry hin).usual
  · exact (h entry hin).closed hvalue

theorem of_valid {siblings : List String} (hkeys : ∀ key ∈ members.map Prod.fst, key ∉ special)
    (hclosed : membersMention "$ref" members = false)
    (h : keywordsFault? true siblings members = none) : HasOnly Q members := by
  induction members with
  | nil => exact nil
  | cons entry rest ih =>
    obtain ⟨key, value⟩ := entry
    have husual := hkeys key List.mem_cons_self
    rw [membersMention, Bool.or_eq_false_iff, Bool.or_eq_false_iff] at hclosed
    rw [keywordsFault?_cons, keywordsFault?_singleton husual, Option.or_eq_none_iff] at h
    refine cons ⟨husual, fun href => ?_, fun fault hf => ?_⟩
      (ih (fun name hin => hkeys name (List.mem_cons_of_mem _ hin)) hclosed.2 h.2)
    · rw [containsRef, hclosed.1.2] at href
      cases href
    · rw [h.1] at hf
      cases hf

end Members.HasOnly

namespace Json

/-! ## Schemas -/

/-- The schema is an object that has no faults but those in `Q`. -/
def HasOnly (Q : Fault → Prop) (schema : Json) : Prop :=
  ∃ members : Members, schema = .obj members ∧ members.HasOnly Q

variable {Q : Fault → Prop} {schema value : Json} {key : String}

namespace HasOnly

theorem mono {R : Fault → Prop} (h : schema.HasOnly Q) (hqr : ∀ fault, Q fault → R fault) :
    schema.HasOnly R := by
  obtain ⟨members, rfl, hm⟩ := h
  refine ⟨members, rfl, fun entry hin => ?_⟩
  obtain ⟨usual, closed, sound⟩ := hm entry hin
  exact ⟨usual, fun hr => hqr _ (closed hr), fun fault hf => hqr _ (sound fault hf)⟩

theorem putAll {added : Members} (h : schema.HasOnly Q) (ha : added.HasOnly Q) :
    (schema.putAll added).HasOnly Q := by
  obtain ⟨members, rfl, hm⟩ := h
  exact ⟨_, rfl, hm.putAll ha⟩

theorem put (h : schema.HasOnly Q) (hv : KeywordHasOnly Q key value) :
    (schema.put key value).HasOnly Q := by
  obtain ⟨members, rfl, hm⟩ := h
  exact ⟨_, rfl, hm.putAll (.cons hv .nil)⟩

theorem reference (h : schema.HasOnly Q) (hr : schema.containsRef = true) : Q .reference := by
  obtain ⟨members, rfl, hm⟩ := h
  exact hm.reference hr

theorem schemaFault {fault : Fault} (h : schema.HasOnly Q)
    (hf : schemaFault? true schema = some fault) : Q fault := by
  obtain ⟨members, rfl, hm⟩ := h
  rw [schemaFault?] at hf
  exact hm.fault hf

theorem fault {fault : Fault} (h : schema.HasOnly Q) (hf : schema.fault? = some fault) :
    Q fault := by
  unfold fault? at hf
  split at hf
  · next href =>
    cases hf
    exact h.reference href
  · exact h.schemaFault hf

end HasOnly

/-! ## Values of keywords -/

theorem schemasFault?_append (first second : List Json) : schemasFault? true (first ++ second) =
    (schemasFault? true first).or (schemasFault? true second) := by
  induction first with
  | nil => rfl
  | cons item rest ih =>
    rw [List.cons_append, schemasFault?, schemasFault?, ih, Option.or_assoc]

namespace KeywordHasOnly

/-! What a fixed keyword is, is found by looking it up; so these conditions come last. -/

theorem of_plain (href : value.containsRef = false)
    (hsound : ∀ fault, plainFault? true (Shape.ofKeyword [] key) value = some fault → Q fault)
    (hkey : isPlain key = true := by decide) : KeywordHasOnly Q key value where
  usual := by
    simp only [isPlain, Bool.and_eq_true, decide_eq_true_eq] at hkey
    exact hkey.1
  closed := by
    intro h
    rw [href] at h
    cases h
  sound := by rwa [keywordFault?_of_plain hkey]

theorem of_harmless (href : value.containsRef = false)
    (h : plainFault? true (Shape.ofKeyword [] key) value = none)
    (hkey : isPlain key = true := by decide) : KeywordHasOnly Q key value := by
  refine of_plain href (fun fault hf => ?_) hkey
  rw [h] at hf
  cases hf

theorem of_schema (h : value.HasOnly Q) (hkey : key ∉ special := by decide)
    (hshape : Shape.ofKeyword [] key = .schema := by decide) : KeywordHasOnly Q key value where
  usual := hkey
  closed := h.reference
  sound fault hf := by
    rw [keywordFault?_of_schema hshape] at hf
    exact h.schemaFault hf

theorem of_named {members : Members} (hnames : "$ref" ∈ members.map Prod.fst → Q .reference)
    (h : ∀ entry ∈ members, entry.2.HasOnly Q) (hkey : key ∉ special := by decide)
    (hshape : Shape.ofKeyword [] key = .named := by decide) :
    KeywordHasOnly Q key (.obj members) where
  usual := hkey
  closed hm := by
    obtain ⟨entry, hin, hname | hschema⟩ := membersMention_iff.1 hm
    · exact hnames (hname ▸ List.mem_map_of_mem hin)
    · exact (h entry hin).reference hschema
  sound fault hf := by
    rw [keywordFault?_of_named hshape] at hf
    clear hnames
    induction members with
    | nil => cases hf
    | cons entry rest ih =>
      obtain ⟨name, schema⟩ := entry
      rw [namedFault?, Option.or_eq_some_iff] at hf
      rcases hf with hf | ⟨-, hf⟩
      · exact (h _ List.mem_cons_self).schemaFault hf
      · exact ih (fun entry hin => h entry (List.mem_cons_of_mem _ hin)) hf

/-- A branch for null is a schema like any other. -/
theorem branchesOrNull (h : KeywordHasOnly Q "oneOf" value) :
    KeywordHasOnly Q "oneOf" value.branchesOrNull := by
  unfold Json.branchesOrNull
  split
  next branches =>
    split
    · exact h
    have hshape : Shape.ofKeyword [] "oneOf" = .schemas := by decide
    have hclosed : itemsMention "$ref" [.obj [("type", .str "null")]] = false := by decide
    have hvalid : schemasFault? true [.obj [("type", .str "null")]] = none := rfl
    refine ⟨h.usual, fun href => h.closed ?_, fun fault hf => ?_⟩
    · show itemsMention "$ref" branches = true
      rw [containsRef, mentions, itemsMention_append, hclosed, Bool.or_false] at href
      exact href
    · cases branches with
      | nil =>
        rw [List.nil_append, keywordFault?_of_schemas hshape, hvalid] at hf
        cases hf
      | cons first rest =>
        rw [List.cons_append, keywordFault?_of_schemas hshape, ← List.cons_append,
          schemasFault?_append, hvalid, Option.or_none] at hf
        refine h.sound fault ?_
        rwa [keywordFault?_of_schemas hshape]
  · exact h

end KeywordHasOnly

theorem keywordHasOnly_typeOrNull {type : String} (h : type ∈ typeNames) (hn : type ≠ "null") :
    KeywordHasOnly Q "type" (strings [type, "null"]) := by
  have hvalid : ∀ type ∈ typeNames, type ≠ "null" →
      typeFault? (strings [type, "null"]) = none := by decide
  exact .of_harmless (containsRef_strings _) (hvalid type h hn)

namespace HasOnly

theorem change {f : Json → Json} (h : schema.HasOnly Q)
    (hf : ∀ old, KeywordHasOnly Q key old → KeywordHasOnly Q key (f old)) :
    (schema.change key f).HasOnly Q := by
  unfold Json.change
  split
  · next old hold =>
    refine h.put (hf old ?_)
    obtain ⟨members, rfl, hm⟩ := h
    exact hm _ (Members.mem_of_get? hold)
  · exact h

theorem orNull (h : schema.HasOnly Q) (ht : schema.Typed) : schema.orNull.HasOnly Q := by
  obtain ⟨type, htype, hnull, hat⟩ := ht
  have hput : schema.change "type" typeOrNull = schema.put "type" (strings [type, "null"]) := by
    rw [Json.change, hat]
    rfl
  rw [Json.orNull, hput]
  exact (h.put (keywordHasOnly_typeOrNull htype hnull)).change fun _ hold => hold.branchesOrNull

theorem withDescription {description : Option String} (h : schema.HasOnly Q) :
    (schema.withDescription description).HasOnly Q := by
  unfold Json.withDescription
  split
  · split
    · exact h
    · exact h.put (.of_harmless rfl rfl)
  · exact h

/-- A valid schema has no faults at all. -/
theorem of_valid {members : Members} (hkeys : ∀ key ∈ members.map Prod.fst, key ∉ special)
    (h : (obj members).fault? = none) : (obj members).HasOnly Q := by
  unfold fault? at h
  split at h
  · cases h
  · next hclosed =>
    rw [schemaFault?] at h
    exact ⟨members, rfl, .of_valid hkeys (Bool.eq_false_iff.2 hclosed) h⟩

end HasOnly

end Json

end MessageSchema
