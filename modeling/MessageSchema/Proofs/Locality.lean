import MessageSchema.Proofs.Position
import MessageSchema.Proofs.Comparison
import MessageSchema.Proofs.Walk

/-!
# What the expansion of a message depends on

Of the messages that are being expanded, the expansion of a message sees only those that it can
reach (`expandMessage_congr`), and it sees nothing of what was expanded before it, for the walk over
a message leaves no name behind. So a message that does not reach back to the one it stands in has
the same schema there as by itself (`expansion_local`).
-/

namespace MessageSchema

namespace Field

/-- The field adds nothing to the schema of a message: it is a list, whose items take nothing, or it
has neither presence nor a description. -/
def AddsNothing (f : Field) : Prop :=
  f.isList = true ∨ f.presence = false ∧ f.description.getD "" = ""

theorem AddsNothing.worn_eq {f : Field} (h : f.AddsNothing) (schema : Json) :
    f.worn schema = schema := by
  unfold worn
  rcases h with hl | ⟨hp, hd⟩
  · rw [if_pos hl]
  by_cases hl : f.isList = true
  · rw [if_pos hl]
  have hnull : f.isNullable ≠ true := by
    rw [isNullable, hp, Bool.false_and]
    exact Bool.false_ne_true
  rw [if_neg hl, if_neg hnull]
  cases hdesc : f.description with
  | none => rfl
  | some text =>
    rw [hdesc, Option.getD_some] at hd
    rw [Json.withDescription, if_pos hd]

end Field

namespace DescriptorSet

variable {set : DescriptorSet} {m n : MessageType} {inside around : List String}

/-- The two lists hold the same of the names of messages that `m` reaches. -/
def AgreeBelow (set : DescriptorSet) (m : MessageType) (inside around : List String) : Prop :=
  ∀ n, set.Reaches m n → (n.fullName ∈ inside ↔ n.fullName ∈ around)

theorem AgreeBelow.cons (h : set.AgreeBelow m inside around) (name : String) :
    set.AgreeBelow m (name :: inside) (name :: around) := by
  intro n hn
  rw [List.mem_cons, List.mem_cons, h n hn]

theorem AgreeBelow.step (h : set.AgreeBelow m inside around) (hstep : set.Step m n) :
    set.AgreeBelow n inside around :=
  fun k hk => h k (.head hstep hk)

end DescriptorSet

namespace Pool

open DescriptorSet

variable (pool : Pool)

/-- A message has the same expansion inside messages that agree on what it reaches. -/
theorem expandMessage_congr (inside : List String) (m : pool.set.Message) :
    ∀ around, pool.set.AgreeBelow m.val inside around →
      pool.set.expandMessage inside m = pool.set.expandMessage around m := by
  induction inside, m using expansion_induction with
  | step inside m ih =>
    intro around hagree
    have hself : m.val.fullName ∈ inside ↔ m.val.fullName ∈ around := hagree m.val .refl
    by_cases hm : m.val.fullName ∈ inside
    · rw [expandMessage_of_mem hm, expandMessage_of_mem (hself.1 hm)]
    have hfields : ∀ f ∈ m.val.fields,
        pool.set.expandField (m.val.fullName :: inside) f =
          pool.set.expandField (m.val.fullName :: around) f := by
      intro f hf
      have hwf := pool.wellFormed m.property hf
      rcases hwf.leaf_cases with ⟨n, refers⟩ | ⟨cause, fault⟩ | ⟨schema, hschema⟩
      · have hbelow := (hagree.step ⟨f, hf, refers⟩).cons m.val.fullName
        rw [expandField_of_refersTo hwf refers, expandField_of_refersTo hwf refers,
          ih hm ⟨n, refers.mem⟩ _ hbelow]
      · rw [expandField_of_fault hwf fault, expandField_of_fault hwf fault]
      · rw [expandField_eq hwf, expandField_eq hwf, hschema, hschema]
    rw [expandMessage_of_not_mem hm, expandMessage_of_not_mem fun h => hm (hself.2 h),
      expandFields_congr hfields]

/-- A message that another does not reach is as good as no message around it. -/
theorem agreeBelow_of_not_reaches {m n : MessageType} (hm : m ∈ pool.set.messages)
    (hn : n ∈ pool.set.messages) (h : ¬ pool.set.Reaches n m) :
    pool.set.AgreeBelow n [m.fullName] [] := by
  intro k hk
  have hne : k.fullName ≠ m.fullName := fun hname =>
    h (pool.eq_of_fullName_eq (mem_of_reaches hn hk) hm hname ▸ hk)
  simp only [List.mem_singleton, hne, List.not_mem_nil]

/-- In a message that is not reached back from a field, the field has the schema of the message it
refers to, or the error of that message, as they are by themselves. -/
theorem expandField_of_not_reaches {m n : pool.set.Message} {f : Field} (hf : f ∈ m.val.fields)
    (refers : pool.set.RefersTo f n.val) (h : ¬ pool.set.Reaches n.val m.val) :
    pool.set.expandField [m.val.fullName] f = (pool.schemaOf n).map (f.assemble pool.set) := by
  have hagree := pool.agreeBelow_of_not_reaches m.property n.property h
  rw [expandField_of_refersTo (pool.wellFormed m.property hf) refers,
    pool.expandMessage_congr _ _ _ hagree]
  rfl

/-- **The expansion of a message depends on the messages around it only through those it reaches**,
and leaves their names as they were, with a schema or without one. So where a message does not reach
back to `m`, a field of `m` that refers to it has its schema, or fails with its error, and the
document of `m` holds that schema as it is if the field adds nothing to it. -/
theorem expansion_local :
    (∀ (n : pool.set.Message) (inside around : List String),
      (∀ k, pool.set.Reaches n.val k → (k.fullName ∈ inside ↔ k.fullName ∈ around)) →
      pool.set.expandMessage inside n = pool.set.expandMessage around n) ∧
    (∀ (n : pool.set.Message) (inside : List String),
      (pool.set.walkMessage n).run inside = (pool.set.expandMessage inside n, inside)) ∧
    ∀ (m n : pool.set.Message) (f : Field), f ∈ m.val.fields → pool.set.RefersTo f n.val →
      ¬ pool.set.Reaches n.val m.val →
      pool.set.expandField [m.val.fullName] f = (pool.schemaOf n).map (f.assemble pool.set) ∧
      (f.leaf.AddsNothing →
        (∀ schema, (f.assemble pool.set schema).at? f.valueKeys = some schema) ∧
        ∀ document, m.val.LastNamed f → pool.schemaOf m = .ok document →
          ∃ schema, pool.schemaOf n = .ok schema ∧ document.at? f.position = some schema) := by
  refine ⟨fun n inside around h => pool.expandMessage_congr inside n around h,
    fun n inside => walkMessage_run inside n, fun m n f hf refers hback => ?_⟩
  refine ⟨pool.expandField_of_not_reaches hf refers hback, fun hadds => ⟨fun schema => ?_, ?_⟩⟩
  · have hwf := pool.wellFormed m.property hf
    rw [Field.at?_assemble_message hwf refers.1 refers.2.1, hadds.worn_eq]
  · intro document named hdocument
    obtain ⟨schema, hschema, hat⟩ :=
      pool.expandMessage_at_field List.not_mem_nil hdocument named refers
    have hagree := pool.agreeBelow_of_not_reaches m.property n.property hback
    refine ⟨schema, ?_, by rw [hat, hadds.worn_eq]⟩
    exact (pool.expandMessage_congr _ n _ hagree).symm.trans hschema

/-- A book may have a sequel, which is a book. -/
def bookType : MessageType where
  declaredName := "library.Book"
  fields := [{ name := "title", kind := .string }, .ofType "sequel" .message "library.Book"]

/-- The book a shelf begins with. -/
def firstBook : Field := .ofType "first" .message "library.Book"

/-- The books of a shelf. -/
def shelvedBooks : Field :=
  { name := "books", kind := .message, cardinality := .repeated, typeName? := ".library.Book" }

def shelfType : MessageType where
  declaredName := "library.Shelf"
  fields := [firstBook, shelvedBooks]

/-- A pool in which a message that refers to itself stands in another one. -/
def library : Pool where
  set := { messages := [shelfType, bookType] }
  sound := by decide

def shelf : library.set.Message := ⟨shelfType, .head _⟩

def book : library.set.Message := ⟨bookType, .tail _ (.head _)⟩

theorem eq_bookType_of_reaches {k : MessageType} (h : library.set.Reaches bookType k) :
    k = bookType := by
  induction h with
  | refl => rfl
  | tail _ hstep ih =>
    subst ih
    obtain ⟨f, hf, hk, -, hfound⟩ := hstep
    rcases List.mem_cons.1 hf with rfl | hf
    · cases hk
    · obtain rfl := List.mem_singleton.1 hf
      exact (Option.some.inj hfound).symm

theorem library_expansion_local :
    ∃ document schema, library.schemaOf shelf = .ok document ∧ library.schemaOf book = .ok schema ∧
      library.set.expandMessage ["library.Shelf"] book = library.set.expandMessage [] book ∧
      document.at? ["properties", "first"] = some schema ∧
      document.at? ["properties", "books", "items"] = some schema := by
  obtain ⟨hcongr, -, hplaced⟩ := library.expansion_local
  have hback : ¬ library.set.Reaches book.val shelf.val := fun h =>
    absurd (congrArg MessageType.declaredName (eq_bookType_of_reaches h)) (by decide)
  have hagree : ∀ k, library.set.Reaches book.val k →
      (k.fullName ∈ ["library.Shelf"] ↔ k.fullName ∈ []) := fun k hk => by
    rw [eq_bookType_of_reaches hk]
    decide
  have hfirst : shelf.val.LastNamed firstBook :=
    ⟨[], [shelvedBooks], rfl, fun g hg => by rw [List.mem_singleton.1 hg]; decide⟩
  have hbooks : shelf.val.LastNamed shelvedBooks :=
    ⟨[firstBook], [], rfl, fun _ h => absurd h List.not_mem_nil⟩
  obtain ⟨document, hdocument⟩ := library.exists_schemaOf shelf (by decide)
  obtain ⟨schema, hschema, hat⟩ := ((hplaced shelf book firstBook hfirst.mem
    ⟨rfl, by decide, rfl⟩ hback).2 (.inr ⟨rfl, rfl⟩)).2 document hfirst hdocument
  obtain ⟨schema', hschema', hat'⟩ := ((hplaced shelf book shelvedBooks hbooks.mem
    ⟨rfl, by decide, rfl⟩ hback).2 (.inl rfl)).2 document hbooks hdocument
  obtain rfl : schema = schema' := Except.ok.inj (hschema.symm.trans hschema')
  exact ⟨document, schema, hdocument, hschema, hcongr book _ _ hagree, hat, hat'⟩

end Pool

end MessageSchema
