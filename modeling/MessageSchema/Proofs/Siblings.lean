import MessageSchema.Proofs.Comparison
import MessageSchema.Proofs.Position
import MessageSchema.Proofs.Walk

/-!
# Fields of one message beside each other

A message with other fields in the same set (`DescriptorSet.refield`). Inside that message nothing
depends on its fields, for where it is met again it is not expanded (`expandMessage_refield`). So
each field has the schema, or the error, that it has as the only field of its message, and the
message has a schema exactly when it has one with each of its fields alone (`schemaOf_siblings`).
-/

namespace MessageSchema

/-- The message, with other fields if it has the given name. -/
def MessageType.refield (name : String) (fields : List Field) (n : MessageType) : MessageType :=
  if n.fullName = name then { n with fields } else n

namespace MessageType

variable {name : String} {fields : List Field} {n : MessageType}

theorem refield_of_eq (h : n.fullName = name) : n.refield name fields = { n with fields } :=
  if_pos h

theorem refield_of_ne (h : n.fullName ≠ name) : n.refield name fields = n :=
  if_neg h

@[simp] theorem declaredName_refield :
    (n.refield name fields).declaredName = n.declaredName := by
  unfold refield
  split <;> rfl

@[simp] theorem fullName_refield : (n.refield name fields).fullName = n.fullName := by
  rw [fullName, declaredName_refield, fullName]

end MessageType

namespace DescriptorSet

/-- The set with other fields for the message of a name. -/
def refield (set : DescriptorSet) (name : String) (fields : List Field) : DescriptorSet :=
  { set with messages := set.messages.map (·.refield name fields) }

variable {set : DescriptorSet} {inside : List String} {name : String} {fields : List Field}

theorem mem_refield {n : MessageType} (h : n ∈ set.messages) :
    n.refield name fields ∈ (set.refield name fields).messages :=
  mem_mapMessages h

/-! ## Expansion inside the message -/

theorem expandField_refield (h : ∀ n : set.Message, set.expandMessage inside n =
      (set.refield name fields).expandMessage inside
        ⟨n.val.refield name fields, mem_refield n.property⟩) (f : Field) :
    set.expandField inside f = (set.refield name fields).expandField inside f :=
  expandField_mapMessages (fun _ => MessageType.fullName_refield) h f

/-- Inside the message of a name nothing depends on the fields of that message. -/
theorem expandMessage_refield (inside : List String) (n : set.Message) : name ∈ inside →
    set.expandMessage inside n = (set.refield name fields).expandMessage inside
      ⟨n.val.refield name fields, mem_refield n.property⟩ := by
  induction inside, n using expansion_induction with
  | step inside n ih =>
    intro hname
    by_cases hn : n.val.fullName ∈ inside
    · rw [expandMessage_of_mem hn, expandMessage_of_mem (by simpa using hn)]
    -- `n` is another message, and so it has its own fields on both sides
    have hne : n.val.fullName ≠ name := fun h => hn (h ▸ hname)
    have hfields : ∀ f ∈ n.val.fields, set.expandField (n.val.fullName :: inside) f =
        (set.refield name fields).expandField (n.val.fullName :: inside) f := fun f _ =>
      expandField_refield (fun k => ih hn k (List.mem_cons_of_mem _ hname)) f
    rw [expandMessage_of_not_mem hn, expandMessage_of_not_mem (by simpa using hn)]
    simp only [MessageType.refield_of_ne hne]
    rw [expandFields_congr hfields]

end DescriptorSet

namespace Pool

open DescriptorSet

variable (pool : Pool)

/-- A pool stays one where a message has other fields that nothing is wrong with. -/
theorem offence?_refield_of_sound (m : pool.set.Message) {fields : List Field}
    (h : ∀ f ∈ fields, pool.set.fieldOffence? m.val.declaredName f = none) :
    (pool.set.refield m.val.fullName fields).offence? = none := by
  obtain ⟨hnames, hfields⟩ := offence?_eq_none_iff.1 pool.sound
  have hkept : (pool.set.refield m.val.fullName fields).names = pool.set.names :=
    names_mapMessages fun _ => MessageType.fullName_refield
  refine offence?_eq_none_iff.2 ⟨by rw [hkept, hnames], fun n' hn' f hf => ?_⟩
  obtain ⟨n, hn, rfl⟩ := List.mem_map.1 hn'
  rw [refield, ← mapMessages, fieldOffence?_mapMessages fun _ => MessageType.fullName_refield,
    MessageType.declaredName_refield]
  by_cases hname : n.fullName = m.val.fullName
  · obtain rfl := pool.eq_of_fullName_eq hn m.property hname
    rw [MessageType.refield_of_eq rfl] at hf
    exact h f hf
  · rw [MessageType.refield_of_ne hname] at hf
    exact hfields n hn f hf

/-- Nothing is wrong with the fields of a message of a pool. -/
theorem fieldOffence?_of_mem (m : pool.set.Message) {f : Field} (hf : f ∈ m.val.fields) :
    pool.set.fieldOffence? m.val.declaredName f = none :=
  (offence?_eq_none_iff.1 pool.sound).2 m.val m.property f hf

/-- A pool stays one where a message keeps only some of its fields. -/
theorem offence?_refield (m : pool.set.Message) {fields : List Field}
    (h : fields ⊆ m.val.fields) : (pool.set.refield m.val.fullName fields).offence? = none :=
  pool.offence?_refield_of_sound m fun _ hf => pool.fieldOffence?_of_mem m (h hf)

variable (m : pool.set.Message) {f : Field} (hf : f ∈ m.val.fields)

/-- The pool in which a message keeps one of its fields alone. -/
def withOnly : Pool where
  set := pool.set.refield m.val.fullName [f]
  sound := pool.offence?_refield m (List.cons_subset.2 ⟨hf, List.nil_subset _⟩)

/-- The message with one of its fields alone. -/
def only : (pool.withOnly m hf).set.Message :=
  ⟨{ m.val with fields := [f] },
    MessageType.refield_of_eq (n := m.val) rfl ▸ mem_refield m.property⟩

/-- A field has the same schema, or the same error, as the only field of its message. -/
theorem expandField_withOnly (g : Field) : pool.set.expandField [m.val.fullName] g =
    (pool.withOnly m hf).set.expandField [m.val.fullName] g :=
  expandField_refield (fun n => expandMessage_refield _ n List.mem_cons_self) g

/-- With one field alone a message has a schema when that field has one. -/
theorem exists_schemaOf_only_iff :
    (∃ document, (pool.withOnly m hf).schemaOf (pool.only m hf) = .ok document) ↔
      ∃ schema, pool.set.expandField [m.val.fullName] f = .ok schema := by
  rw [pool.expandField_withOnly m hf, schemaOf, exists_expandMessage_iff List.not_mem_nil]
  constructor
  · intro h
    exact h f (List.mem_singleton.2 rfl)
  · rintro h g hg
    obtain rfl := List.mem_singleton.1 hg
    exact h

/-- **Each field of a message has the schema that it has as the only field**: a message has a schema
exactly when it has one with each of its fields alone, and then the property of a field is the same
in both, also where the field leads back to the message. -/
theorem schemaOf_siblings :
    (∀ f (hf : f ∈ m.val.fields),
      Pool.ofSet (pool.set.refield m.val.fullName [f]) = .ok (pool.withOnly m hf)) ∧
    ((∃ document, pool.schemaOf m = .ok document) ↔ ∀ f (hf : f ∈ m.val.fields),
      ∃ document, (pool.withOnly m hf).schemaOf (pool.only m hf) = .ok document) ∧
    ∀ document, pool.schemaOf m = .ok document → ∀ f (named : m.val.LastNamed f),
      ∃ alone schema,
        (pool.withOnly m named.mem).schemaOf (pool.only m named.mem) = .ok alone ∧
        document.at? ["properties", f.jsonName] = some schema ∧
        alone.at? ["properties", f.jsonName] = some schema := by
  refine ⟨fun f hf => (pool.withOnly m hf).ofSet_set, ?_, fun document hdocument f named => ?_⟩
  · rw [schemaOf, exists_expandMessage_iff List.not_mem_nil]
    constructor
    · intro h f hf
      exact (pool.exists_schemaOf_only_iff m hf).2 (h f hf)
    · intro h f hf
      exact (pool.exists_schemaOf_only_iff m hf).1 (h f hf)
  · obtain ⟨schema, hschema, hat⟩ := expandMessage_property List.not_mem_nil hdocument named
    obtain ⟨alone, halone⟩ := (pool.exists_schemaOf_only_iff m named.mem).2 ⟨schema, hschema⟩
    have hnamed : (pool.only m named.mem).val.LastNamed f :=
      ⟨[], [], rfl, fun _ h => absurd h List.not_mem_nil⟩
    obtain ⟨other, hother, hat'⟩ := expandMessage_property List.not_mem_nil halone hnamed
    have heq : schema = other := by
      rw [pool.expandField_withOnly m named.mem] at hschema
      exact Except.ok.inj (hschema.symm.trans hother)
    exact ⟨alone, schema, halone, hat [], heq ▸ hat' []⟩

/-- The post that opens a thread. -/
def openingPost : Field := .ofType "opening" .message "forum.Post"

/-- The replies to it, by the names of their authors. -/
def replies : Field := .mapOf "replies" (.ofType "reply" .message ".forum.Post")

def threadType : MessageType where
  declaredName := "forum.Thread"
  fields := [openingPost, replies]

/-- A post knows its thread. -/
def postType : MessageType where
  declaredName := "forum.Post"
  fields := [.ofType "thread" .message "forum.Thread", { name := "text", kind := .string }]

/-- A pool in which both fields of a message lead back to the message. -/
def forum : Pool where
  set := { messages := [threadType, postType] }
  sound := by decide

def thread : forum.set.Message := ⟨threadType, .head _⟩

theorem forum_siblings : ∃ document alone schema,
    forum.schemaOf thread = .ok document ∧
    Pool.ofSet (forum.set.refield "forum.Thread" [replies]) =
      .ok (forum.withOnly thread (.tail _ (.head _))) ∧
    (forum.withOnly thread (.tail _ (.head _))).schemaOf (forum.only thread (.tail _ (.head _))) =
      .ok alone ∧
    document.at? ["properties", "replies"] = some schema ∧
    alone.at? ["properties", "replies"] = some schema := by
  obtain ⟨hindexed, -, hproperty⟩ := forum.schemaOf_siblings thread
  have hreplies : thread.val.LastNamed replies :=
    ⟨[openingPost], [], rfl, fun _ h => absurd h List.not_mem_nil⟩
  obtain ⟨document, hdocument⟩ := forum.exists_schemaOf thread (by decide)
  obtain ⟨alone, schema, halone, hat, hat'⟩ := hproperty document hdocument replies hreplies
  exact ⟨document, alone, schema, hdocument, hindexed replies hreplies.mem, halone, hat, hat'⟩

end Pool

end MessageSchema
