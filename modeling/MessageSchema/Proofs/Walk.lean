import MessageSchema.Proofs.Unfolding

/-!
# Expansion as a walk

A walk from message to message with one set of names that all of its steps share: a message joins
the names before its fields are walked over and leaves them afterwards, also when one of the fields
has no schema. Expansion is that walk (`walkMessage_run`): the walk finds the expansion of a message
and leaves the names as it found them, so that what a message does to the names is over before the
next one is met.

The walk recurses on how deep messages may still stand in each other, and so it can be evaluated.
-/

namespace MessageSchema

/-- A walk from message to message, which changes the names of the messages being expanded. -/
abbrev Walk := StateM (List String)

namespace DescriptorSet

variable (set : DescriptorSet)

section Below

variable (below : set.Message → Walk (Except SchemaError Json))

/-- The walk over one value of a field; `below` walks over messages. -/
def walkValue (f : Field) : Walk (Except SchemaError Json) :=
  match f.wellKnown? with
  | some type => return .ok type.schema
  | none =>
    match f.kind with
    | .message =>
      match hm : set.messageOf? f with
      | some m => below ⟨m, mem_of_messageOf? hm⟩
      | none => return .error (.unresolvedType (f.typeName.getD ""))
    | kind => return kind.fragment (set.enumOf? f)

/-- The walk over a field. -/
def walkField (f : Field) : Walk (Except SchemaError Json) :=
  match f with
  | { cardinality := .map, name, mapValue := none, .. } => return .error (.missingMapValue name)
  | { cardinality := .map, mapValue := some value, .. } => do
    return (← walkField value).map (f.mapSchema set value)
  | f => do return (← set.walkValue below f).map (f.dress set)
termination_by structural f

/-- The walk over fields of the message `owner`, which ends at the first error. -/
def walkFields (owner : String) : List Field → Walk (Except SchemaError (List Json))
  | [] => return .ok []
  | f :: rest => do
    match ← set.walkField below f with
    | .error cause => return .error (.inField owner f.name cause)
    | .ok schema => return (← walkFields owner rest).map (schema :: ·)

end Below

/-- The walk over a message, through at most `depth` messages in each other. -/
def walk : Nat → set.Message → Walk (Except SchemaError Json)
  | 0, _ => return .ok bareObject
  | depth + 1, m => do
    if m.val.fullName ∈ (← get) then
      return .ok bareObject
    modify (·.insert m.val.fullName)
    let schemas ← set.walkFields (walk depth) m.val.fullName m.val.fields
    modify (·.erase m.val.fullName)
    return schemas.map m.val.shell

/-- The walk over a message, as deep as messages can stand in each other. -/
def walkMessage (m : set.Message) : Walk (Except SchemaError Json) :=
  set.walk (set.messages.length + 1) m

variable {set} {below : set.Message → Walk (Except SchemaError Json)} {inside : List String}

theorem walkField_of_not_map {f : Field} (hc : f.cardinality ≠ .map) :
    set.walkField below f = do return (← set.walkValue below f).map (f.dress set) := by
  unfold walkField
  split
  · exact absurd rfl hc
  · exact absurd rfl hc
  · rfl

theorem walkValue_of_found {f : Field} {m : MessageType} (hk : f.kind = .message)
    (special : f.wellKnown? = none) (found : set.messageOf? f = some m) :
    set.walkValue below f = below ⟨m, mem_of_messageOf? found⟩ := by
  rw [walkValue, special]
  simp only [hk]
  split
  · next n hn =>
    obtain rfl : n = m := Option.some.inj (hn.symm.trans found)
    rfl
  · next hn => rw [found] at hn; cases hn

theorem walkValue_of_missing {f : Field} (hk : f.kind = .message)
    (special : f.wellKnown? = none) (missing : set.messageOf? f = none) :
    set.walkValue below f = return .error (.unresolvedType (f.typeName.getD "")) := by
  rw [walkValue, special]
  simp only [hk]
  split
  · next n hn => rw [missing] at hn; cases hn
  · rfl

/-! The walks over values and fields find expansions and keep the names if `below` does. -/

theorem walkValue_run (h : ∀ n, (below n).run inside = (set.expandMessage inside n, inside))
    (f : Field) : (set.walkValue below f).run inside = (set.expandValue inside f, inside) := by
  cases special : f.wellKnown? with
  | some type =>
    rw [expandValue_of_wellKnown special, walkValue, special]
    rfl
  | none =>
    by_cases hk : f.kind = .message
    · cases found : set.messageOf? f with
      | some m =>
        rw [walkValue_of_found hk special found, expandValue_of_found hk special found]
        exact h _
      | none =>
        rw [walkValue_of_missing hk special found, expandValue_of_missing hk special found]
        rfl
    · rw [expandValue_of_kind hk, walkValue, special]
      cases hkind : f.kind with
      | message => exact absurd hkind hk
      | _ => rfl

theorem walkField_run (h : ∀ n, (below n).run inside = (set.expandMessage inside n, inside)) :
    ∀ f : Field, (set.walkField below f).run inside = (set.expandField inside f, inside)
  | { name, jsonName?, kind, cardinality, presence, typeName?, mapValue, annotations, rules } => by
    by_cases hc : cardinality = .map
    · subst hc
      cases mapValue with
      | none => rw [walkField, expandField]; rfl
      | some value =>
        have ih := walkField_run h value
        rw [walkField, expandField]
        simp only [StateT.run_bind, ih]
        rfl
    · rw [walkField_of_not_map hc, expandField_of_not_map hc]
      simp only [StateT.run_bind, walkValue_run h]
      rfl

theorem walkFields_run (h : ∀ n, (below n).run inside = (set.expandMessage inside n, inside))
    (owner : String) (fields : List Field) : (set.walkFields below owner fields).run inside =
      (set.expandFields owner inside fields, inside) := by
  induction fields with
  | nil => rw [expandFields]; rfl
  | cons f rest ih =>
    rw [walkFields]
    simp only [StateT.run_bind, walkField_run h]
    cases hf : set.expandField inside f with
    | error cause => rw [expandFields_cons_of_error hf]; rfl
    | ok schema =>
      rw [expandFields_cons_of_ok hf]
      show (do return (← set.walkFields below owner rest).map (schema :: ·)).run inside = _
      simp only [StateT.run_bind, ih]
      rfl

/-- Where the walk goes deep enough, it finds the expansion and leaves the names as they were. -/
theorem walk_run {depth : Nat} {inside : List String} (m : set.Message)
    (h : set.remaining inside < depth) :
    (set.walk depth m).run inside = (set.expandMessage inside m, inside) := by
  induction depth generalizing inside m with
  | zero => omega
  | succ depth ih =>
    rw [walk]
    simp only [StateT.run_bind, StateT.run_get]
    by_cases hm : m.val.fullName ∈ inside
    · rw [expandMessage_of_mem hm]
      simp only [pure_bind, if_pos hm]
      rfl
    · -- inside one name more the walk goes one message less deep, and that is enough
      have hlt := remaining_cons_lt m.property hm
      have hbelow : ∀ n, (set.walk depth n).run (m.val.fullName :: inside) =
          (set.expandMessage (m.val.fullName :: inside) n, m.val.fullName :: inside) :=
        fun n => ih n (by omega)
      rw [expandMessage_of_not_mem hm]
      simp only [pure_bind, if_neg hm, StateT.run_bind, StateT.run_modify,
        List.insert_of_not_mem hm, walkFields_run hbelow]
      show (_, (m.val.fullName :: inside).erase m.val.fullName) = _
      rw [List.erase_cons_head]

/-- The walk over a message finds its expansion and leaves the names as they were. -/
theorem walkMessage_run (inside : List String) (m : set.Message) :
    (set.walkMessage m).run inside = (set.expandMessage inside m, inside) :=
  walk_run m (Nat.lt_succ_of_le List.countP_le_length)

end DescriptorSet

namespace Pool

/-- The schema of a message is what the walk finds that starts from no names. -/
theorem schemaOf_eq_walk (pool : Pool) (m : pool.set.Message) :
    pool.schemaOf m = ((pool.set.walkMessage m).run []).1 := by
  rw [DescriptorSet.walkMessage_run]
  rfl

/-- A property of the schema of a message can be told from the walk. -/
theorem exists_schemaOf_with {pool : Pool} {m : pool.set.Message} {p : Json → Bool}
    (h : ((pool.set.walkMessage m).run []).1.toOption.any p = true) :
    ∃ schema, pool.schemaOf m = .ok schema ∧ p schema = true := by
  rw [← schemaOf_eq_walk] at h
  cases hs : pool.schemaOf m with
  | error e => rw [hs] at h; cases h
  | ok schema =>
    rw [hs] at h
    exact ⟨schema, rfl, h⟩

theorem exists_schemaOf (pool : Pool) (m : pool.set.Message)
    (h : ((pool.set.walkMessage m).run []).1.isOk = true) :
    ∃ schema, pool.schemaOf m = .ok schema := by
  rw [← schemaOf_eq_walk] at h
  cases hs : pool.schemaOf m with
  | error e => rw [hs] at h; cases h
  | ok schema => exact ⟨schema, rfl⟩

end Pool

end MessageSchema
