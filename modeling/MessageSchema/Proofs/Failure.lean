import MessageSchema.Proofs.Unfolding
import Mathlib.Data.List.Chain
import Mathlib.Data.List.Perm.Subperm

/-!
# Which messages have no schema, and what the error says

* A message has no schema exactly when it reaches a message with a faulty field
  (`schemaOf_fails_iff`): a message that is not expanded again inside itself hides no fault,
  because every reachable message is reached without coming back.
* The error then names the way to the first fault, message by message (`FailurePath`,
  `schemaOf_error_path`).
-/

namespace MessageSchema

namespace SchemaError

/-- An error inside fields of messages, the outermost first. -/
def within (cause : SchemaError) : List (String × String) → SchemaError
  | [] => cause
  | (message, field) :: rest => .inField message field (cause.within rest)

theorem root_within (cause : SchemaError) (path : List (String × String)) :
    (cause.within path).root = cause.root := by
  induction path with
  | nil => rfl
  | cons place rest ih => exact ih

theorem fields_within (cause : SchemaError) (path : List (String × String)) :
    (cause.within path).fields = path.map Prod.snd ++ cause.fields := by
  induction path with
  | nil => rfl
  | cons place rest ih =>
    show place.2 :: (cause.within rest).fields = place.2 :: (rest.map Prod.snd ++ cause.fields)
    rw [ih]

/-- What the text of an error says of one field. -/
def placeText (place : String × String) : String :=
  "error processing field " ++ place.2 ++ " of " ++ place.1 ++ ": "

theorem message_within (cause : SchemaError) (path : List (String × String)) :
    (cause.within path).message = (path.map placeText).foldr (· ++ ·) cause.message := by
  induction path with
  | nil => rfl
  | cons place rest ih =>
    show placeText place ++ (cause.within rest).message = placeText place ++ _
    rw [ih]

end SchemaError

namespace DescriptorSet

variable {set : DescriptorSet}

theorem Fault.root {f : Field} {cause : SchemaError} (h : set.Fault f cause) :
    cause.root = cause := by
  cases h <;> rfl

theorem Fault.fields {f : Field} {cause : SchemaError} (h : set.Fault f cause) :
    cause.fields = [] := by
  cases h <;> rfl

/-! ## Failing runs -/

/-- The fields before `f` in the order of the message have schemas inside `inside`. -/
def FirstToFail (set : DescriptorSet) (inside : List String) (m : MessageType) (f : Field) : Prop :=
  ∃ before after, m.fields = before ++ f :: after ∧
    ∀ g ∈ before, ∃ schema, set.expandField inside g = .ok schema

theorem FirstToFail.mem {inside : List String} {m : MessageType} {f : Field}
    (h : set.FirstToFail inside m f) : f ∈ m.fields := by
  obtain ⟨before, after, hsplit, -⟩ := h
  rw [hsplit]
  exact List.mem_append_cons_self

/-- The expansion of `m` inside `inside` runs into a fault: the messages and fields on the way. -/
inductive FailsAlong (set : DescriptorSet) :
    List String → MessageType → List (MessageType × Field) → SchemaError → Prop
  | here {inside : List String} {m : MessageType} {f : Field} {cause : SchemaError}
      (fresh : m.fullName ∉ inside) (first : set.FirstToFail (m.fullName :: inside) m f)
      (fault : set.Fault f cause) : FailsAlong set inside m [(m, f)] cause
  | deeper {inside : List String} {m n : MessageType} {f : Field}
      {steps : List (MessageType × Field)} {cause : SchemaError}
      (fresh : m.fullName ∉ inside) (first : set.FirstToFail (m.fullName :: inside) m f)
      (refers : set.RefersTo f n) (rest : FailsAlong set (m.fullName :: inside) n steps cause) :
      FailsAlong set inside m ((m, f) :: steps) cause

namespace FailsAlong

variable {inside : List String} {m : MessageType} {steps : List (MessageType × Field)}
  {cause : SchemaError}

theorem starts (h : set.FailsAlong inside m steps cause) : ∃ f rest, steps = (m, f) :: rest := by
  cases h with
  | here => exact ⟨_, _, rfl⟩
  | deeper => exact ⟨_, _, rfl⟩

theorem ends (h : set.FailsAlong inside m steps cause) :
    ∃ s, steps.getLast? = some s ∧ set.Fault s.2 cause := by
  induction h with
  | here _ _ fault => exact ⟨_, rfl, fault⟩
  | deeper _ _ _ rest ih =>
    obtain ⟨s, hs, fault⟩ := ih
    exact ⟨s, by rw [List.getLast?_cons, hs]; rfl, fault⟩

theorem declared (h : set.FailsAlong inside m steps cause) (hm : m ∈ set.messages) :
    ∀ s ∈ steps, s.1 ∈ set.messages ∧ s.2 ∈ s.1.fields := by
  induction h with
  | here _ first _ =>
    intro s hs
    obtain rfl := List.mem_singleton.1 hs
    exact ⟨hm, first.mem⟩
  | deeper _ first refers _ ih =>
    intro s hs
    rcases List.mem_cons.1 hs with rfl | hs
    · exact ⟨hm, first.mem⟩
    · exact ih refers.mem s hs

theorem linked (h : set.FailsAlong inside m steps cause) :
    steps.IsChain fun s t => set.RefersTo s.2 t.1 := by
  induction h with
  | here => exact List.isChain_singleton _
  | deeper _ _ refers rest ih =>
    obtain ⟨f, steps', rfl⟩ := rest.starts
    exact List.isChain_cons_cons.2 ⟨refers, ih⟩

/-- The names on the way are new, each of them inside those before it. -/
theorem distinct (h : set.FailsAlong inside m steps cause) :
    (steps.map (·.1.fullName)).Nodup ∧ ∀ s ∈ steps, s.1.fullName ∉ inside := by
  induction h with
  | here fresh =>
    refine ⟨List.nodup_singleton _, fun s hs => ?_⟩
    obtain rfl := List.mem_singleton.1 hs
    exact fresh
  | deeper fresh _ _ _ ih =>
    obtain ⟨hnodup, hfresh⟩ := ih
    refine ⟨List.nodup_cons.2 ⟨fun hn => ?_, hnodup⟩, fun s hs => ?_⟩
    · obtain ⟨s, hs, hname⟩ := List.mem_map.1 hn
      exact hfresh s hs (hname ▸ List.mem_cons_self)
    · rcases List.mem_cons.1 hs with rfl | hs
      · exact fresh
      · exact fun hin => hfresh s hs (List.mem_cons_of_mem _ hin)

/-- At each step the fields before the one that fails have schemas, inside the messages that come
before. -/
theorem first (h : set.FailsAlong inside m steps cause) :
    ∀ earlier s later, steps = earlier ++ s :: later →
      set.FirstToFail (s.1.fullName :: ((earlier.map (·.1.fullName)).reverse ++ inside))
        s.1 s.2 := by
  induction h with
  | here _ first _ =>
    intro earlier s later hsplit
    cases earlier with
    | nil => cases hsplit; exact first
    | cons _ earlier => cases earlier <;> cases hsplit
  | deeper _ first _ _ ih =>
    intro earlier s later hsplit
    cases earlier with
    | nil => cases hsplit; exact first
    | cons t earlier =>
      cases hsplit
      have hrest := ih earlier s later rfl
      rwa [List.map_cons, List.reverse_cons, List.append_assoc, List.singleton_append]

theorem reaches (h : set.FailsAlong inside m steps cause) :
    ∃ n, set.Reaches m n ∧ ∃ f ∈ n.fields, set.Fault f cause := by
  induction h with
  | here _ first fault => exact ⟨_, .refl, _, first.mem, fault⟩
  | deeper _ first refers _ ih =>
    obtain ⟨n, hreach, hfault⟩ := ih
    exact ⟨n, .head ⟨_, first.mem, refers⟩ hreach, hfault⟩

end FailsAlong

/-- A step to a message that is not being expanded. -/
def StepOutside (set : DescriptorSet) (inside : List String) (m n : MessageType) : Prop :=
  set.Step m n ∧ n.fullName ∉ inside

/-- Outside no messages every message that is reached is reached. -/
theorem Reaches.outside {m n : MessageType} (h : set.Reaches m n) :
    Relation.ReflTransGen (set.StepOutside []) m n :=
  Relation.ReflTransGen.mono (fun _ _ hstep => ⟨hstep, List.not_mem_nil⟩) _ _ h

end DescriptorSet

namespace Pool

open DescriptorSet

variable (pool : Pool)

/-- An expansion that fails runs into a fault, and the error names the fields on the way. -/
theorem failsAlong_of_expandMessage (inside : List String) (m : pool.set.Message) :
    ∀ e, pool.set.expandMessage inside m = .error e →
      ∃ steps cause, pool.set.FailsAlong inside m.val steps cause ∧
        e = cause.within (steps.map fun s => (s.1.fullName, s.2.name)) := by
  induction inside, m using expansion_induction with
  | step inside m ih =>
    intro e he
    obtain ⟨fresh, before, f, after, cause, hsplit, hbefore, hf, rfl⟩ :=
      expandMessage_eq_error_iff.1 he
    have hfirst : pool.set.FirstToFail (m.val.fullName :: inside) m.val f :=
      ⟨before, after, hsplit, hbefore⟩
    have hwf := pool.wellFormed m.property hfirst.mem
    rcases fault_or_below_of_expandField hwf hf with fault | ⟨n, refers, hn⟩
    · exact ⟨_, cause, .here fresh hfirst fault, rfl⟩
    · obtain ⟨steps, root, hsteps, rfl⟩ := ih fresh ⟨n, refers.mem⟩ cause hn
      exact ⟨_, root, .deeper fresh hfirst refers hsteps, rfl⟩

/-- What is reached without entering `inside` is `m` itself, or is reached from a field of `m`
without coming back to `m`. -/
theorem eq_or_step_outside {inside : List String} {m n : MessageType} (hm : m ∈ pool.set.messages)
    (h : Relation.ReflTransGen (pool.set.StepOutside inside) m n) :
    n = m ∨ ∃ k, pool.set.StepOutside (m.fullName :: inside) m k ∧
      Relation.ReflTransGen (pool.set.StepOutside (m.fullName :: inside)) k n := by
  induction h with
  | refl => exact .inl rfl
  | @tail b c _ hbc ih =>
    by_cases hc : c.fullName = m.fullName
    · exact .inl (pool.eq_of_fullName_eq hbc.1.mem hm hc)
    have hout : c.fullName ∉ m.fullName :: inside := fun hin =>
      (List.mem_cons.1 hin).elim hc hbc.2
    rcases ih with rfl | ⟨k, hk, hkb⟩
    · exact .inr ⟨c, ⟨hbc.1, hout⟩, .refl⟩
    · exact .inr ⟨k, hk, hkb.tail ⟨hbc.1, hout⟩⟩

/-- Whatever an expansion that succeeds can reach without entering `inside` has no faulty field. -/
theorem not_faulty_of_expandMessage (inside : List String) (m : pool.set.Message) :
    m.val.fullName ∉ inside → (∃ document, pool.set.expandMessage inside m = .ok document) →
      ∀ n, Relation.ReflTransGen (pool.set.StepOutside inside) m.val n →
        ∀ f ∈ n.fields, ¬ pool.set.Faulty f := by
  induction inside, m using expansion_induction with
  | step inside m ih =>
    intro fresh hdocument n hn f hf hfaulty
    have hfield := (exists_expandMessage_iff fresh).1 hdocument
    rcases pool.eq_or_step_outside m.property hn with rfl | ⟨k, ⟨⟨g, hg, refers⟩, hout⟩, hkn⟩
    · -- the fault is in a field of `m`, which would have failed
      have hwf := pool.wellFormed m.property hf
      obtain ⟨cause, fault⟩ := hwf.exists_fault hfaulty
      obtain ⟨schema, hs⟩ := hfield f hf
      rw [expandField_of_fault hwf fault] at hs
      cases hs
    · -- the fault is further on, and the message that leads there was expanded with success
      obtain ⟨schema, hs⟩ := hfield g hg
      rw [expandField_of_refersTo (pool.wellFormed m.property hg) refers] at hs
      cases hx : pool.set.expandMessage (m.val.fullName :: inside) ⟨k, refers.mem⟩ with
      | error e => rw [hx] at hs; cases hs
      | ok inner => exact ih fresh ⟨k, refers.mem⟩ hout ⟨inner, hx⟩ n hkn f hf hfaulty

/-- **A message has no schema exactly when it reaches a faulty field.** Of a map field only the
values count: its own kind and the name of its own type change nothing. -/
theorem schemaOf_fails_iff :
    (∀ m : pool.set.Message, (∃ e, pool.schemaOf m = .error e) ↔
      ∃ n, pool.set.Reaches m.val n ∧ ∃ f ∈ n.fields, pool.set.Faulty f) ∧
    ∀ (f : Field) (kind : Kind) (typeName? : Option String) (inside : List String),
      pool.set.expandField inside { f with cardinality := .map, kind, typeName? } =
        pool.set.expandField inside { f with cardinality := .map } := by
  refine ⟨fun m => ⟨?_, ?_⟩, fun f kind typeName? inside => ?_⟩
  · rintro ⟨e, he⟩
    obtain ⟨steps, cause, hsteps, -⟩ := pool.failsAlong_of_expandMessage [] m e he
    obtain ⟨n, hreach, f, hf, fault⟩ := hsteps.reaches
    exact ⟨n, hreach, f, hf, fault.faulty⟩
  · rintro ⟨n, hreach, f, hf, hfaulty⟩
    cases hs : pool.schemaOf m with
    | error e => exact ⟨e, rfl⟩
    | ok document =>
      have hle : pool.set.Step ≤ pool.set.StepOutside [] :=
        fun _ _ hstep => ⟨hstep, List.not_mem_nil⟩
      have hout : Relation.ReflTransGen (pool.set.StepOutside []) m.val n :=
        Relation.ReflTransGen.mono hle _ _ hreach
      exact absurd hfaulty
        (pool.not_faulty_of_expandMessage [] m List.not_mem_nil ⟨document, hs⟩ n hout f hf)
  · rw [expandField, expandField]
    rfl

/-! ## The way to a fault -/

/-- The way from a message to the fault that its error is about: the messages that were being
expanded, each with the field at which it failed. -/
structure FailurePath (m : MessageType) (e : SchemaError) (steps : List (MessageType × Field))
    (cause : SchemaError) : Prop where
  /-- The error is the cause with the names of these messages and fields around it. -/
  wrapped : e = cause.within (steps.map fun s => (s.1.fullName, s.2.name))
  starts : ∃ f rest, steps = (m, f) :: rest
  declared : ∀ s ∈ steps, s.1 ∈ pool.set.messages ∧ s.2 ∈ s.1.fields
  linked : steps.IsChain fun s t => pool.set.RefersTo s.2 t.1
  distinct : (steps.map (·.1.fullName)).Nodup
  short : steps.length ≤ pool.messages.length
  ends : ∃ s, steps.getLast? = some s ∧ pool.set.Fault s.2 cause
  /-- The fields before each of these fields have schemas inside the messages before. -/
  first : ∀ earlier s later, steps = earlier ++ s :: later →
    pool.set.FirstToFail (s.1.fullName :: (earlier.map (·.1.fullName)).reverse) s.1 s.2

theorem length_le_of_distinct {steps : List (MessageType × Field)}
    (hdeclared : ∀ s ∈ steps, s.1 ∈ pool.set.messages)
    (hdistinct : (steps.map (·.1.fullName)).Nodup) : steps.length ≤ pool.messages.length := by
  have hsub : steps.map (·.1.fullName) ⊆ pool.set.messages.map (·.fullName) := fun name hname => by
    obtain ⟨s, hs, rfl⟩ := List.mem_map.1 hname
    exact List.mem_map_of_mem (hdeclared s hs)
  have hle := (List.subperm_of_subset hdistinct hsub).length_le
  rwa [List.length_map, List.length_map] at hle

/-- **The error of a message names the way to the first fault**, and its path, its root and its
text are those of that way. -/
theorem schemaOf_error_path (m : pool.set.Message) {e : SchemaError}
    (h : pool.schemaOf m = .error e) :
    ∃ steps cause, pool.FailurePath m.val e steps cause ∧
      (∀ message field inner, cause ≠ .inField message field inner) ∧
      e.path = ".".intercalate (steps.map (·.2.name)) ∧ e.root = cause ∧
      e.message = (steps.map fun s => "error processing field " ++ s.2.name ++ " of " ++
        s.1.fullName ++ ": ").foldr (· ++ ·) cause.message := by
  obtain ⟨steps, cause, hsteps, rfl⟩ := pool.failsAlong_of_expandMessage [] m e h
  obtain ⟨s, hs, fault⟩ := hsteps.ends
  have hdeclared := hsteps.declared m.property
  refine ⟨steps, cause, ?_, ?_, ?_, ?_, ?_⟩
  · exact {
      wrapped := rfl
      starts := hsteps.starts
      declared := hdeclared
      linked := hsteps.linked
      distinct := hsteps.distinct.1
      short := pool.length_le_of_distinct (fun s hs => (hdeclared s hs).1) hsteps.distinct.1
      ends := ⟨s, hs, fault⟩
      first := fun earlier s later hsplit => by
        have hfirst := hsteps.first earlier s later hsplit
        rwa [List.append_nil] at hfirst }
  · rintro message field inner rfl
    cases fault
  · rw [SchemaError.path, SchemaError.fields_within, fault.fields, List.append_nil, List.map_map]
    rfl
  · rw [SchemaError.root_within, fault.root]
  · rw [SchemaError.message_within, List.map_map]
    rfl

/-- A line of an order leads back to its order, and has a group after that. -/
def lineType : MessageType where
  declaredName := "shop.Line"
  fields := [.ofType "order" .message "shop.Order", { name := "legacy", kind := .group }]

/-- The lines of an order under names. -/
def lines : Field := .mapOf "lines" (.ofType "line" .message ".shop.Line")

def orderType : MessageType where
  declaredName := "shop.Order"
  fields := [{ name := "id", kind := .string }, lines]

/-- A pool in which a fault is reached through a map and behind a message inside itself. -/
def orders : Pool where
  set := { messages := [orderType, lineType] }
  sound := by decide

theorem orders_error_path :
    ∃ order : orders.set.Message, ∃ e, orders.schemaOf order = .error e ∧ e.path = "lines.legacy" ∧
      ∃ steps, orders.FailurePath order.val e steps (.unsupportedKind .group) := by
  have horder : orderType ∈ orders.set.messages := .head _
  have hline : lineType ∈ orders.set.messages := .tail _ (.head _)
  have hback : orders.set.RefersTo (.ofType "order" .message "shop.Order") orderType :=
    ⟨rfl, by decide, rfl⟩
  have hlines : orders.set.RefersTo lines lineType := ⟨rfl, by decide, rfl⟩
  have hfault : orders.set.Fault { name := "legacy", kind := .group } (.unsupportedKind .group) :=
    .group rfl
  have hnew : lineType.fullName ∉ [orderType.fullName] := by decide
  have hinside : orderType.fullName ∈ [lineType.fullName, orderType.fullName] := by decide
  have hlineFails : orders.set.expandMessage [orderType.fullName] ⟨lineType, hline⟩ =
      .error (.inField lineType.fullName "legacy" (.unsupportedKind .group)) := by
    refine expandMessage_eq_error_iff.2 ⟨hnew, [_], _, [], _, rfl, fun g hg => ?_,
      expandField_of_fault (orders.wellFormed hline (.tail _ (.head _))) hfault, rfl⟩
    obtain rfl := List.mem_singleton.1 hg
    rw [expandField_of_refersTo (orders.wellFormed hline (.head _)) hback,
      expandMessage_of_mem hinside]
    exact ⟨_, rfl⟩
  have hfails : orders.schemaOf ⟨orderType, horder⟩ = .error (.inField orderType.fullName "lines"
      (.inField lineType.fullName "legacy" (.unsupportedKind .group))) := by
    refine expandMessage_eq_error_iff.2 ⟨List.not_mem_nil, [_], lines, [], _, rfl, ?_, ?_, rfl⟩
    · intro g hg
      obtain rfl := List.mem_singleton.1 hg
      rw [expandField_of_not_map (by decide), expandValue_of_kind (by decide)]
      exact ⟨_, rfl⟩
    · rw [expandField_of_refersTo (orders.wellFormed horder (.tail _ (.head _))) hlines, hlineFails]
      rfl
  obtain ⟨steps, cause, hsteps, -, -, hroot, -⟩ := orders.schemaOf_error_path _ hfails
  obtain rfl : _ = cause := hroot
  exact ⟨_, _, hfails, by decide, steps, hsteps⟩

end Pool

end MessageSchema
