import MessageSchema.Schema.Assembly

/-!
# Expansion of messages

The schema of a message has the schemas of all messages in it written out in place. A message that
stands inside its own expansion is not expanded again; the list of the names that are being
expanded says which these are. Each expansion adds a name of the set to that list, so expansion
ends.
-/

namespace MessageSchema

namespace DescriptorSet

/-- How many message types have none of the given names. -/
def remaining (set : DescriptorSet) (inside : List String) : Nat :=
  set.messages.countP fun m => m.fullName ∉ inside

theorem remaining_cons_lt {set : DescriptorSet} {inside : List String} {m : MessageType}
    (hm : m ∈ set.messages) (h : m.fullName ∉ inside) :
    set.remaining (m.fullName :: inside) < set.remaining inside := by
  unfold remaining
  generalize set.messages = messages at hm
  induction messages with
  | nil => simp at hm
  | cons other rest ih =>
    have hle : rest.countP (fun m' => decide (m'.fullName ∉ m.fullName :: inside)) ≤
        rest.countP (fun m' => decide (m'.fullName ∉ inside)) :=
      List.countP_mono_left fun x _ hx => by simp_all
    rcases List.mem_cons.1 hm with rfl | hrest
    · rw [List.countP_cons_of_neg (by simp), List.countP_cons_of_pos (by simpa using h)]
      omega
    · have := ih hrest
      by_cases ho : other.fullName ∉ m.fullName :: inside
      · rw [List.countP_cons_of_pos (by simpa using ho),
          List.countP_cons_of_pos (by simp_all)]
        omega
      · rw [List.countP_cons_of_neg (by simpa using ho)]
        rw [List.countP_cons]
        omega

theorem sizeOf_mapValue {f value : Field} (h : f.mapValue = some value) :
    sizeOf value < sizeOf f := by
  cases f
  simp only at h
  subst h
  simp only [Field.mk.sizeOf_spec, Option.some.sizeOf_spec]
  omega

mutual

/-- The schema of a message inside the messages of the given names. -/
def expandMessage (set : DescriptorSet) (inside : List String) (m : set.Message) :
    Except SchemaError Json :=
  if _h : m.val.fullName ∈ inside then .ok bareObject
  else
    (set.expandFields m.val.fullName (m.val.fullName :: inside) m.val.fields).map m.val.shell
termination_by (set.remaining inside, 0)
decreasing_by
  exact Prod.Lex.left _ _ (remaining_cons_lt m.property _h)

/-- The schemas of fields of the message `owner`. -/
def expandFields (set : DescriptorSet) (owner : String) (inside : List String) :
    List Field → Except SchemaError (List Json)
  | [] => .ok []
  | f :: rest => do
    let schema ← (set.expandField inside f).mapError (.inField owner f.name)
    let schemas ← set.expandFields owner inside rest
    return schema :: schemas
termination_by fields => (set.remaining inside, sizeOf fields)
decreasing_by
  all_goals
    apply Prod.Lex.right
    have : 0 < sizeOf rest := by
      cases rest <;> simp only [List.nil.sizeOf_spec, List.cons.sizeOf_spec] <;> omega
    simp only [List.cons.sizeOf_spec]
    omega

/-- The schema of a field. -/
def expandField (set : DescriptorSet) (inside : List String) (f : Field) :
    Except SchemaError Json :=
  match f.cardinality with
  | .repeated => (set.expandValue inside f).map (f.listSchema set)
  | .map =>
    match _h : f.mapValue with
    | none => .error (.missingMapValue f.name)
    | some value => (set.expandField inside value).map (f.mapSchema set value)
  | .singular | .required =>
    match f.wellKnown? with
    | some type => .ok type.schema
    | none => (set.expandValue inside f).map (f.singleSchema set)
termination_by (set.remaining inside, sizeOf f + 1)
decreasing_by
  · exact Prod.Lex.right _ (by omega)
  · exact Prod.Lex.right _ (by have smaller := sizeOf_mapValue _h; omega)
  · exact Prod.Lex.right _ (by omega)

/-- The schema of one value of a field. -/
def expandValue (set : DescriptorSet) (inside : List String) (f : Field) :
    Except SchemaError Json :=
  match f.wellKnown? with
  | some type => .ok type.schema
  | none =>
    match f.kind with
    | .message =>
      match hm : set.messageOf? f with
      | some m => set.expandMessage inside ⟨m, mem_of_messageOf? hm⟩
      | none => .error (.unresolvedType (f.typeName.getD ""))
    | kind => kind.fragment (set.enumOf? f)
termination_by (set.remaining inside, sizeOf f)
decreasing_by
  apply Prod.Lex.right
  cases f
  simp only [Field.mk.sizeOf_spec]
  omega

end

end DescriptorSet

namespace Pool

/-- The message types of a pool, in order. -/
def messages (pool : Pool) : List MessageType := pool.set.messages

/-- The message type of a name, which may have a leading dot. -/
def message? (pool : Pool) (name : String) : Option MessageType := pool.set.message? name

/-- The enum type of a name, which may have a leading dot. -/
def enum? (pool : Pool) (name : String) : Option EnumType := pool.set.enum? name

/-- The schema of a message type of the pool. -/
def schemaOf (pool : Pool) (m : pool.set.Message) : Except SchemaError Json :=
  pool.set.expandMessage [] m

/-- The schemas of all message types of the pool, in order. -/
def schemas (pool : Pool) : List (MessageType × Except SchemaError Json) :=
  pool.messages.attach.map fun m => (m.val, pool.schemaOf m)

/-- The schema of the message type of a name. -/
def schema (pool : Pool) (name : String) : Except SchemaError Json :=
  match h : pool.message? name with
  | some m => pool.schemaOf ⟨m, DescriptorSet.mem_of_message? h⟩
  | none => .error (.messageNotFound name)

end Pool

end MessageSchema
