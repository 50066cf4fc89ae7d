import MessageSchema.Descriptor.Construction
import MessageSchema.Proofs.Agreement
import MessageSchema.Proofs.ArgumentLines
import MessageSchema.Proofs.ReadingBack

/-!
# All or nothing

A run of `generate` ends in one of six ways (`Command.Generates`): the source cannot be read, or is
no pool, or one of the messages asked for is refused, or the document is printed, or it is written,
or it cannot be written. Only the two ways that succeed print or write anything, and they print or
write the same text (`Command.generate_all_or_nothing`). The message that is told to be refused is
the first one that is (`Pool.generate_eq_error_iff`), whatever was generated before it.
-/

namespace MessageSchema

namespace Pool

/-! ## The first message that is refused -/

/-- The names of the messages that are asked for. -/
def asked (pool : Pool) : Option String → List String
  | some name => [name]
  | none => pool.messages.map (·.fullName)

variable [PatternSyntax] {pool : Pool} {checked : Bool}

/-- The messages before the one of the name have schemas, which are valid where that is asked
for. -/
def ComesTo (pool : Pool) (checked : Bool) (names : List String) (name : String) : Prop :=
  ∃ before after, names = before ++ name :: after ∧
    ∀ other ∈ before, ∃ document, pool.generateOne checked other = .ok document

theorem comesTo_self (name : String) : pool.ComesTo checked [name] name :=
  ⟨[], [], rfl, fun _ h => absurd h List.not_mem_nil⟩

theorem generateOne_eq_schema_error_iff {name : String} {cause : SchemaError} :
    pool.generateOne checked name = .error (.schema cause) ↔ pool.schema name = .error cause := by
  unfold generateOne
  cases pool.schema name with
  | error e => rw [Except.error.injEq, Except.error.injEq, GenerateError.schema.injEq]
  | ok schema =>
    constructor
    · intro h
      simp only at h
      split at h <;> cases h
    · intro h; cases h

theorem generateOne_eq_fault_error_iff {name other : String} {fault : Fault} :
    pool.generateOne checked name = .error (.fault other fault) ↔
      other = name ∧ checked = true ∧
        ∃ schema, pool.schema name = .ok schema ∧ schema.fault? = some fault := by
  unfold generateOne
  cases pool.schema name with
  | error e =>
    constructor
    · intro h; cases h
    · rintro ⟨-, -, _, h, -⟩; cases h
  | ok schema =>
    cases checked with
    | false =>
      constructor
      · intro h; cases h
      · rintro ⟨-, h, -⟩; cases h
    | true =>
      simp only [if_true]
      cases hfault : schema.fault? with
      | none =>
        constructor
        · intro h; cases h
        · rintro ⟨-, -, _, h, hsome⟩
          cases h
          rw [hfault] at hsome
          cases hsome
      | some found =>
        constructor
        · intro h
          cases h
          exact ⟨rfl, trivial, schema, rfl, hfault⟩
        · rintro ⟨rfl, -, _, h, hsome⟩
          cases h
          rw [hfault] at hsome
          cases hsome
          rfl

theorem generateEach_eq_error_iff {names : List String} {cause : GenerateError} :
    pool.generateEach checked names = .error cause ↔
      ∃ name, pool.ComesTo checked names name ∧ pool.generateOne checked name = .error cause := by
  induction names with
  | nil =>
    constructor
    · intro h; cases h
    · rintro ⟨name, ⟨before, after, hsplit, -⟩, -⟩
      cases before <;> cases hsplit
  | cons name rest ih =>
    rw [generateEach]
    cases hone : pool.generateOne checked name with
    | error e =>
      constructor
      · intro h
        cases h
        exact ⟨name, ⟨[], rest, rfl, fun _ h => absurd h List.not_mem_nil⟩, hone⟩
      · rintro ⟨other, ⟨before, after, hsplit, hbefore⟩, hother⟩
        cases before with
        | nil =>
          cases hsplit
          cases hone.symm.trans hother
          rfl
        | cons first before =>
          cases hsplit
          obtain ⟨document, hdocument⟩ := hbefore name List.mem_cons_self
          rw [hone] at hdocument
          cases hdocument
    | ok schema =>
      have hrest : (do
          let others ← pool.generateEach checked rest
          return (name, schema) :: others : Except GenerateError Members) = .error cause ↔
          pool.generateEach checked rest = .error cause := by
        cases pool.generateEach checked rest with
        | error e => exact Iff.rfl
        | ok others =>
          constructor <;>
          · intro h
            cases h
      refine hrest.trans (ih.trans ⟨?_, ?_⟩)
      · rintro ⟨other, ⟨before, after, rfl, hbefore⟩, hother⟩
        refine ⟨other, ⟨name :: before, after, rfl, ?_⟩, hother⟩
        exact List.forall_mem_cons.2 ⟨⟨schema, hone⟩, hbefore⟩
      · rintro ⟨other, ⟨before, after, hsplit, hbefore⟩, hother⟩
        cases before with
        | nil =>
          cases hsplit
          rw [hone] at hother
          cases hother
        | cons first before =>
          cases hsplit
          exact ⟨other, ⟨before, after, rfl, (List.forall_mem_cons.1 hbefore).2⟩, hother⟩

/-- No document is generated exactly if one of the messages asked for is refused; the first of them
is told. -/
theorem generate_eq_error_iff {message : Option String} {cause : GenerateError} :
    pool.generate checked message = .error cause ↔
      ∃ name, pool.ComesTo checked (pool.asked message) name ∧
        pool.generateOne checked name = .error cause := by
  cases message with
  | some name =>
    constructor
    · exact fun h => ⟨name, comesTo_self name, h⟩
    · rintro ⟨other, ⟨before, after, hsplit, -⟩, hother⟩
      cases before with
      | nil =>
        cases hsplit
        exact hother
      | cons first before =>
        cases before <;> cases hsplit
  | none =>
    refine Iff.trans ?_ generateEach_eq_error_iff
    unfold generate asked
    cases pool.generateEach checked (pool.messages.map (·.fullName)) with
    | error e =>
      constructor <;>
      · intro h
        cases h
        rfl
    | ok members =>
      constructor <;>
      · intro h
        cases h

end Pool

namespace Command

/-! ## How `generate` ends -/

/-- A document as it is asked for. -/
def text (pretty : Bool) (document : Json) : String :=
  if pretty then document.pretty else document.compact

section Ending

variable [DecimalRounding] [PatternSyntax]

/-- The ways in which `generate` ends. -/
inductive Generates (m : Machine) (source : String) (message output : Option String)
    (pretty checked : Bool) : Outcome × Machine → Prop
  | unread {cause : LoadError} (unread : Unread m source) (h : load m source = .error cause) :
      Generates m source message output pretty checked (.fail 3 ("Error: " ++ cause.message), m)
  | unfit {cause : LoadError} (unfit : Unfit m source) (h : load m source = .error cause) :
      Generates m source message output pretty checked (.fail 2 ("Error: " ++ cause.message), m)
  | refused {pool : Pool} {cause : GenerateError} (loaded : Loads m source pool)
      (h : pool.generate checked message = .error cause) :
      Generates m source message output pretty checked
        (.fail cause.exitCode ("Error: " ++ cause.message), m)
  | printed {pool : Pool} {document : Json} (loaded : Loads m source pool)
      (generated : pool.generate checked message = .ok document) (here : output = none) :
      Generates m source message output pretty checked
        (.print (text pretty document ++ "\n"), m)
  | written {pool : Pool} {document : Json} {path : String} {changed : Machine}
      (loaded : Loads m source pool) (generated : pool.generate checked message = .ok document)
      (there : output = some path) (h : m.write path (text pretty document) = .ok changed) :
      Generates m source message output pretty checked (.print "", changed)
  | unwritable {pool : Pool} {document : Json} {path : String} {cause : FileError}
      (loaded : Loads m source pool) (generated : pool.generate checked message = .ok document)
      (there : output = some path) (h : m.write path (text pretty document) = .error cause) :
      Generates m source message output pretty checked
        (.fail 3 ("Error writing to " ++ path ++ ": " ++ cause.message), m)

variable {m : Machine} {source : String} {message output : Option String} {pretty checked : Bool}

theorem run_generate_eq : (generate source message output pretty checked).run m =
    match load m source with
    | .error cause => (.fail cause.exitCode ("Error: " ++ cause.message), m)
    | .ok pool =>
      match pool.generate checked message with
      | .error cause => (.fail cause.exitCode ("Error: " ++ cause.message), m)
      | .ok document =>
        match output with
        | none => (.print (text pretty document ++ "\n"), m)
        | some path =>
          match m.write path (text pretty document) with
          | .ok changed => (.print "", changed)
          | .error cause =>
            (.fail 3 ("Error writing to " ++ path ++ ": " ++ cause.message), m) := by
  unfold run plan
  have hsource : (generate source message output pretty checked).source = source := rfl
  rw [hsource]
  cases load m source with
  | error cause => rfl
  | ok pool =>
    simp only [onPool]
    cases pool.generate checked message with
    | error cause => rfl
    | ok document =>
      cases output with
      | none => rfl
      | some path =>
        have hwritten : ∀ result : Except FileError Machine,
            (match result with
              | .ok changed => (written path (.ok ()), changed)
              | .error e => (written path (.error e.message), m)) =
            match result with
              | .ok changed => (.print "", changed)
              | .error e => (.fail 3 ("Error writing to " ++ path ++ ": " ++ e.message), m) := by
          rintro (_ | _) <;> rfl
        exact hwritten _

theorem run_of_load_error {cause : LoadError} (h : load m source = .error cause) :
    (generate source message output pretty checked).run m =
      (.fail cause.exitCode ("Error: " ++ cause.message), m) := by
  rw [run_generate_eq, h]

/-- `generate` ends in one of the six ways. -/
theorem generates_run : Generates m source message output pretty checked
    ((generate source message output pretty checked).run m) := by
  rw [run_generate_eq]
  cases hload : load m source with
  | error cause =>
    show Generates _ _ _ _ _ _ (.fail cause.exitCode _, m)
    rcases unread_or_unfit_of_load hload with hunread | hunfit
    · rw [hunread.exitCode hload]
      exact .unread hunread hload
    · rw [hunfit.exitCode hload]
      exact .unfit hunfit hload
  | ok pool =>
  cases hgenerate : pool.generate checked message with
  | error cause =>
    simp only [hgenerate]
    exact .refused hload hgenerate
  | ok document =>
  cases houtput : output with
  | none =>
    simp only [hgenerate]
    exact .printed hload hgenerate rfl
  | some path =>
  cases hwrite : m.write path (text pretty document) with
  | ok changed =>
    simp only [hgenerate, hwrite]
    exact .written hload hgenerate rfl hwrite
  | error cause =>
    simp only [hgenerate, hwrite]
    exact .unwritable hload hgenerate rfl hwrite

/-- It ends in no other way. -/
theorem Generates.eq_run {answer : Outcome × Machine}
    (h : Generates m source message output pretty checked answer) :
    (generate source message output pretty checked).run m = answer := by
  cases h with
  | unread hunread h => rw [run_of_load_error h, hunread.exitCode h]
  | unfit hunfit h => rw [run_of_load_error h, hunfit.exitCode h]
  | refused loaded h =>
    rw [run_generate_eq, loaded]
    simp only [h]
  | printed loaded generated here =>
    rw [run_generate_eq, loaded]
    simp only [generated, here]
  | written loaded generated there h =>
    rw [run_generate_eq, loaded]
    simp only [generated, there, h]
  | unwritable loaded generated there h =>
    rw [run_generate_eq, loaded]
    simp only [generated, there, h]

/-! ## Exit codes -/

/-- The file that was asked for cannot be written. -/
def Unwritable (m : Machine) (output : Option String) (written : String) : Prop :=
  ∃ path, output = some path ∧
    ∀ place, m.target path = .ok place → m.refuses (.write place written) ≠ none

theorem exitCode_eq_three_iff :
    ((generate source message output pretty checked).run m).1.exitCode = 3 ↔
      Unread m source ∨ ∃ pool document, Loads m source pool ∧
        pool.generate checked message = .ok document ∧
        Unwritable m output (text pretty document) := by
  constructor
  · intro h
    have hrun := @generates_run _ _ m source message output pretty checked
    generalize (generate source message output pretty checked).run m = answer at h hrun
    cases hrun with
    | unread hunread => exact .inl hunread
    | @refused _ cause => cases cause <;> cases h
    | unfit | printed | written => cases h
    | unwritable loaded generated there hwrite =>
      refine .inr ⟨_, _, loaded, generated, _, there, fun place htarget hallowed => ?_⟩
      rw [Machine.write_eq_ok_iff.2 ⟨place, htarget, hallowed, rfl⟩] at hwrite
      cases hwrite
  · rintro (hunread | ⟨pool, document, loaded, generated, path, there, hrefused⟩)
    · obtain ⟨cause, hload, -⟩ := hunread.load_eq
      rw [(Generates.unread hunread hload).eq_run]
      rfl
    · cases hwrite : m.write path (text pretty document) with
      | ok changed =>
        obtain ⟨place, htarget, hallowed, -⟩ := Machine.write_eq_ok_iff.1 hwrite
        exact absurd hallowed (hrefused place htarget)
      | error cause =>
        rw [(Generates.unwritable loaded generated there hwrite).eq_run]
        rfl

theorem exitCode_eq_two_iff :
    ((generate source message output pretty checked).run m).1.exitCode = 2 ↔
      Unfit m source ∨ ∃ pool name cause, Loads m source pool ∧
        pool.ComesTo checked (pool.asked message) name ∧ pool.schema name = .error cause := by
  constructor
  · intro h
    have hrun := @generates_run _ _ m source message output pretty checked
    generalize (generate source message output pretty checked).run m = answer at h hrun
    cases hrun with
    | unfit hunfit => exact .inl hunfit
    | @refused pool cause loaded hrefused =>
      cases cause with
      | fault => cases h
      | schema cause =>
        obtain ⟨name, hcomes, hname⟩ := Pool.generate_eq_error_iff.1 hrefused
        exact .inr ⟨pool, name, cause, loaded, hcomes,
          Pool.generateOne_eq_schema_error_iff.1 hname⟩
    | unread | printed | written | unwritable => cases h
  · rintro (hunfit | ⟨pool, name, cause, loaded, hcomes, hschema⟩)
    · obtain ⟨cause, hload, -⟩ := hunfit.load_eq
      rw [(Generates.unfit hunfit hload).eq_run]
      rfl
    · have hname : pool.generateOne checked name = .error (.schema cause) :=
        Pool.generateOne_eq_schema_error_iff.2 hschema
      rw [(Generates.refused loaded
        (Pool.generate_eq_error_iff.2 ⟨name, hcomes, hname⟩)).eq_run]
      rfl

theorem exitCode_eq_one_iff :
    ((generate source message output pretty checked).run m).1.exitCode = 1 ↔
      ∃ pool name schema fault, Loads m source pool ∧
        pool.ComesTo checked (pool.asked message) name ∧ checked = true ∧
        pool.schema name = .ok schema ∧ schema.fault? = some fault := by
  constructor
  · intro h
    have hrun := @generates_run _ _ m source message output pretty checked
    generalize (generate source message output pretty checked).run m = answer at h hrun
    cases hrun with
    | @refused pool cause loaded hrefused =>
      cases cause with
      | schema => cases h
      | fault other fault =>
        obtain ⟨name, hcomes, hname⟩ := Pool.generate_eq_error_iff.1 hrefused
        obtain ⟨-, hchecked, schema, hschema, hfault⟩ :=
          Pool.generateOne_eq_fault_error_iff.1 hname
        exact ⟨pool, name, schema, fault, loaded, hcomes, hchecked, hschema, hfault⟩
    | unread | unfit | printed | written | unwritable => cases h
  · rintro ⟨pool, name, schema, fault, loaded, hcomes, hchecked, hschema, hfault⟩
    have hname : pool.generateOne checked name = .error (.fault name fault) :=
      Pool.generateOne_eq_fault_error_iff.2 ⟨rfl, hchecked, schema, hschema, hfault⟩
    rw [(Generates.refused loaded (Pool.generate_eq_error_iff.2 ⟨name, hcomes, hname⟩)).eq_run]
    rfl

/-! ## Whole lines -/

theorem perform_of_empty (h : output = some "") :
    (Invocation.ofArguments (generateLine source message output pretty checked)).perform m =
      ({ exitCode := 2, errors := [usage] }, m) := by
  rw [Invocation.ofArguments_generateLine, if_pos h]
  rfl

theorem perform_of_not_empty (h : output ≠ some "") :
    (Invocation.ofArguments (generateLine source message output pretty checked)).perform m =
      (generate source message output pretty checked).run m := by
  rw [Invocation.ofArguments_generateLine, if_neg h]
  rfl

/-- A run that fails prints nothing and leaves all files as they are. -/
theorem Generates.of_failed {answer : Outcome × Machine}
    (h : Generates m source message output pretty checked answer) (failed : answer.1.exitCode ≠ 0) :
    answer.1.output = "" ∧ answer.2 = m := by
  cases h with
  | unread | unfit | refused | unwritable => exact ⟨rfl, rfl⟩
  | printed | written => exact absurd rfl failed

/-- A run that succeeds has a text, which it prints or writes. -/
theorem Generates.of_done {answer : Outcome × Machine}
    (h : Generates m source message output pretty checked answer) (done : answer.1.exitCode = 0) :
    ∃ text : String,
      (generate source message none pretty checked).run m = (.print (text ++ "\n"), m) ∧
      ∀ path, output = some path → ∃ place, m.target path = .ok place ∧
        answer.1.output = "" ∧ answer.2.readText path = .ok text ∧
        answer.2.node? place = some (.file text.toUTF8) ∧
        ∀ other, other ≠ place → answer.2.node? other = m.node? other := by
  cases h with
  | unread | unfit | unwritable => cases done
  | @refused _ cause => cases cause <;> cases done
  | @printed pool document loaded generated here =>
    refine ⟨text pretty document, (Generates.printed loaded generated rfl).eq_run, ?_⟩
    intro path there
    cases here.symm.trans there
  | @written pool document path changed loaded generated there hwrite =>
    refine ⟨text pretty document, (Generates.printed loaded generated rfl).eq_run, ?_⟩
    intro other hother
    cases there.symm.trans hother
    obtain ⟨place, htarget, -⟩ := Machine.write_eq_ok_iff.1 hwrite
    obtain ⟨hfile, hothers⟩ := Machine.node?_of_write htarget hwrite
    exact ⟨place, htarget, rfl, Machine.readText_of_write hwrite, hfile, hothers⟩

theorem Generates.exitCode_le {answer : Outcome × Machine}
    (h : Generates m source message output pretty checked answer) : answer.1.exitCode ≤ 3 := by
  cases h with
  | @refused _ cause => cases cause <;> exact Nat.le_of_ble_eq_true rfl
  | _ => exact Nat.le_of_ble_eq_true rfl

/-- **`generate` does all or nothing.** A line that fails prints nothing and leaves all files as
they are. One that succeeds has a text, which it prints with a new line if it is not to write a
file; if it is, it prints nothing, and the file has that text while everything else is as it was. A
line fails with code 3 if the source cannot be read or the file not be written; with 2 if the name
of that file is empty, if the source is no pool or if the first message that fails has no schema;
with 1 if that has one, which is not valid, and this was to be checked; and with no other code. -/
theorem generate_all_or_nothing (m : Machine) (source : String) (message output : Option String)
    (pretty checked : Bool) :
    let run (output : Option String) : Outcome × Machine :=
      (Invocation.ofArguments (generateLine source message output pretty checked)).perform m
    let answer := run output
    (answer.1.exitCode ≠ 0 → answer.1.output = "" ∧ answer.2 = m) ∧
    (answer.1.exitCode = 0 → ∃ text : String, run none = (.print (text ++ "\n"), m) ∧
      ∀ path, output = some path → ∃ place, m.target path = .ok place ∧
        answer.1.output = "" ∧ answer.2.readText path = .ok text ∧
        answer.2.node? place = some (.file text.toUTF8) ∧
        ∀ other, other ≠ place → answer.2.node? other = m.node? other) ∧
    (answer.1.exitCode = 3 ↔ output ≠ some "" ∧
      (Unread m source ∨ ∃ pool document, Loads m source pool ∧
        pool.generate checked message = .ok document ∧
        Unwritable m output (text pretty document))) ∧
    (answer.1.exitCode = 2 ↔ output = some "" ∨
      Unfit m source ∨ ∃ pool name cause, Loads m source pool ∧
        pool.ComesTo checked (pool.asked message) name ∧ pool.schema name = .error cause) ∧
    (answer.1.exitCode = 1 ↔ output ≠ some "" ∧
      ∃ pool name schema fault, Loads m source pool ∧
        pool.ComesTo checked (pool.asked message) name ∧ checked = true ∧
        pool.schema name = .ok schema ∧ schema.fault? = some fault) ∧
    answer.1.exitCode ≤ 3 := by
  intro run answer
  have hnone : run none = (generate source message none pretty checked).run m :=
    perform_of_not_empty (Option.some_ne_none "").symm
  by_cases hempty : output = some ""
  · have hanswer : answer = ({ exitCode := 2, errors := [usage] }, m) := perform_of_empty hempty
    rw [hanswer]
    simp [hempty]
  · have hanswer : answer = (generate source message output pretty checked).run m :=
      perform_of_not_empty hempty
    have hrun : Generates m source message output pretty checked answer :=
      hanswer ▸ generates_run
    simp only [ne_eq, hempty, not_false_eq_true, true_and, false_or, hnone]
    refine ⟨hrun.of_failed, hrun.of_done, ?_, ?_, ?_, hrun.exitCode_le⟩ <;> rw [hanswer]
    · exact exitCode_eq_three_iff
    · exact exitCode_eq_two_iff
    · exact exitCode_eq_one_iff

end Ending

/-! ## Runs on one machine -/

/-- A set of two messages: one that is as it should be, and one after it whose schema is not
valid. -/
def gardenSet : DescriptorSet :=
  let colours : DescriptorSet := DescriptorSet.addEnum {} { declaredName := "garden.Colour" }
  let plants := colours.addMessage
    { declaredName := "garden.Plant", fields := [.ofEnum "colour" "garden.Colour"] }
  plants.addMessage
    { declaredName := "garden.Bed"
      fields := [.withRules (.plain "label" .string) { string := some { pattern := some "(" } }] }

def gardenPool : Pool where
  set := gardenSet
  sound := by decide +kernel

/-- The text of that set. -/
def gardenText : String := gardenSet.encode.compact

/-- A machine with that set and some other files. One file must not be read, another one finds no
space, and whatever is fetched is no descriptor set. -/
def gardener : Machine where
  files := { entries := [
    (["home", "set.json"], .file gardenText.toUTF8),
    (["home", "bad.json"], .file "\x7b not json".toUTF8),
    (["home", "old.json"], .file "old".toUTF8),
    (["data", "secret.json"], .file "\x7b\x7d".toUTF8)] }
  home := ["home"]
  refuses
    | .read ["data", "secret.json"] => some .permissionDenied
    | .write ["data", "full.json"] _ => some .noSpace
    | _ => none
  network := some {
    fetch := fun _ => .ok "\x7b not json"
    unexpected := fun _ => "error decoding response body" }

theorem not_isUrl_file : isUrl "set.json" = false ∧ isUrl "bad.json" = false ∧
    isUrl "/data/none.json" = false ∧ isUrl "../data/secret.json" = false := by
  decide +kernel

theorem load_garden : load gardener "set.json" = .ok gardenPool := by
  have hfloats : gardenSet.encode.FloatsReadBack := by
    unfold Json.FloatsReadBack
    decide +kernel
  have hset : DescriptorSet.read? gardenText = some gardenSet :=
    DescriptorSet.read?_compact (by decide +kernel) hfloats (by with_unfolding_all rfl)
  have hread : readSource gardener "set.json" = .ok gardenText := readSource_of_find rfl rfl
  rw [(Has.file (networkFor?_of_not_isUrl not_isUrl_file.1) hread hset).load_eq]
  exact congrArg (Except.mapError .invalidSet) gardenPool.ofSet_set

/-- The text that is no descriptor set. -/
theorem read?_brace : DescriptorSet.read? "\x7b not json" = none :=
  Option.isNone_iff_eq_none.1 (by decide +kernel)

theorem readSource_bad : readSource gardener "bad.json" = .ok "\x7b not json" :=
  readSource_of_find rfl rfl

theorem unfit_bad : Unfit gardener "bad.json" :=
  .file (networkFor?_of_not_isUrl not_isUrl_file.2.1) readSource_bad read?_brace

/-- The answer of a server and a file have the same text, which is no descriptor set: the exit code
is three for the one and two for the other. No file is written at an empty path, but as the name of
an output file it is refused with the arguments, with code two. -/
theorem answer_is_read_as_fetched :
    let run (source : String) (message output : Option String) : Outcome :=
      ((Invocation.ofArguments (generateLine source message output false false)).perform gardener).1
    (∃ network, networkFor? gardener "http://host/set.json" = some network ∧
      network.fetch "http://host/set.json" = .ok "\x7b not json") ∧
    readSource gardener "bad.json" = .ok "\x7b not json" ∧
    DescriptorSet.read? "\x7b not json" = none ∧
    (run "http://host/set.json" none none).exitCode = 3 ∧
    (run "bad.json" none none).exitCode = 2 ∧
    gardener.target "" = .error .notFound ∧
    (run "set.json" (some "garden.Plant") (some "")).exitCode = 2 := by
  intro run
  have hnone : none ≠ some "" := (Option.some_ne_none "").symm
  have hnetwork : networkFor? gardener "http://host/set.json" = gardener.network :=
    if_pos (by decide +kernel)
  have hunread : Unread gardener "http://host/set.json" := .answer hnetwork rfl read?_brace
  refine ⟨⟨_, hnetwork, rfl⟩, readSource_bad, read?_brace, ?_, ?_, rfl, ?_⟩
  · show Outcome.exitCode (Prod.fst _) = 3
    rw [perform_of_not_empty hnone]
    exact exitCode_eq_three_iff.2 (.inl hunread)
  · show Outcome.exitCode (Prod.fst _) = 2
    rw [perform_of_not_empty hnone]
    exact exitCode_eq_two_iff.2 (.inl unfit_bad)
  · show Outcome.exitCode (Prod.fst _) = 2
    rw [perform_of_empty rfl]

theorem garden_generates : ∃ document,
    gardenPool.generate true (some "garden.Plant") = .ok document ∧
    gardenPool.generate true none = .error (.fault "garden.Bed" (.notPattern "(")) := by
  obtain ⟨plant, hplant, hvalid⟩ : ∃ schema, gardenPool.schema "garden.Plant" = .ok schema ∧
      schema.fault?.isNone = true :=
    Pool.exists_schema_with (p := (·.fault?.isNone)) (by decide +kernel)
  obtain ⟨bed, hbed, hfault⟩ : ∃ schema, gardenPool.schema "garden.Bed" = .ok schema ∧
      decide (schema.fault? = some (.notPattern "(")) = true :=
    Pool.exists_schema_with (p := fun schema => decide (schema.fault? = some (.notPattern "(")))
      (by decide +kernel)
  have hone : gardenPool.generateOne true "garden.Plant" = .ok plant :=
    Pool.generateOne_of_valid hplant (Option.isNone_iff_eq_none.1 hvalid)
  refine ⟨plant, hone, Pool.generate_eq_error_iff.2 ⟨"garden.Bed", ?_, ?_⟩⟩
  · exact ⟨["garden.Plant"], [], rfl, List.forall_mem_singleton.2 ⟨plant, hone⟩⟩
  · exact Pool.generateOne_eq_fault_error_iff.2 ⟨rfl, rfl, bed, hbed, of_decide_eq_true hfault⟩

/-- One line for each way to end. The second message is refused after the first one was found good,
and nothing of it is left in the file that was there. -/
theorem garden_runs :
    let run (source : String) (message output : Option String) : Outcome × Machine :=
      (Invocation.ofArguments (generateLine source message output false true)).perform gardener
    (∃ document, gardenPool.generate true (some "garden.Plant") = .ok document ∧
      run "set.json" (some "garden.Plant") none = (.print (document.compact ++ "\n"), gardener) ∧
      (run "set.json" (some "garden.Plant") (some "/home/old.json")).1 = .print "" ∧
      (run "set.json" (some "garden.Plant") (some "/home/old.json")).2.readText "old.json" =
        .ok document.compact) ∧
    run "set.json" none (some "old.json") = (.fail 1
      "Error: schema for garden.Bed is not valid JSON Schema: \"(\" is not a \"regex\"",
      gardener) ∧
    run "set.json" (some "garden.Tree") (some "set.json") =
      (.fail 2 "Error: message descriptor not found: garden.Tree", gardener) ∧
    run "bad.json" none (some "bad.json") = (.fail 2 "Error: invalid descriptor JSON", gardener) ∧
    run "/data/none.json" none none =
      (.fail 3 "Error: file not found: /data/none.json", gardener) ∧
    run "../data/secret.json" none none = (.fail 3
      "Error: cannot read ../data/secret.json: Permission denied (os error 13)", gardener) ∧
    run "set.json" (some "garden.Plant") (some "/data/full.json") = (.fail 3
      "Error writing to /data/full.json: No space left on device (os error 28)", gardener) := by
  intro run
  obtain ⟨document, hplant, hbed⟩ := garden_generates
  have hrun : ∀ {source message output}, output ≠ some "" → run source message output =
      (generate source message output false true).run gardener := perform_of_not_empty
  have htree : gardenPool.generate true (some "garden.Tree") =
      .error (.schema (.messageNotFound "garden.Tree")) := rfl
  have hbad : load gardener "bad.json" = .error .invalidJson := by
    rw [load_of_not_isUrl not_isUrl_file.2.1, readSource_bad]
    simp only [Except.bind, Pool.read, read?_brace]
  have hmissing : load gardener "/data/none.json" = .error (.fileNotFound "/data/none.json") :=
    (load_of_not_isUrl not_isUrl_file.2.2.1).trans rfl
  have hsecret : load gardener "../data/secret.json" =
      .error (.cannotRead "../data/secret.json" "Permission denied (os error 13)") :=
    (load_of_not_isUrl not_isUrl_file.2.2.2).trans rfl
  have hwritten : gardener.write "/home/old.json" document.compact = .ok { gardener with
      files := gardener.files.put ["home", "old.json"] document.compact.toUTF8 } := rfl
  have hold : Machine.find { gardener with
      files := gardener.files.put ["home", "old.json"] document.compact.toUTF8 } "old.json" =
      .ok (["home", "old.json"], .file document.compact.toUTF8) := rfl
  have hfull : (generate "set.json" (some "garden.Plant") (some "/data/full.json") false true).run
      gardener = (.fail 3 ("Error writing to " ++ "/data/full.json" ++ ": " ++
        FileError.noSpace.message), gardener) :=
    (Generates.unwritable load_garden hplant rfl rfl).eq_run
  refine ⟨⟨document, hplant, ?_, ?_⟩, ?_, ?_, ?_, ?_, ?_, ?_⟩
  · exact (hrun (by decide)).trans (Generates.printed load_garden hplant rfl).eq_run
  · rw [(hrun (by decide)).trans (Generates.written load_garden hplant rfl hwritten).eq_run]
    refine ⟨rfl, ?_⟩
    unfold Machine.readText
    simp only [hold, bind, Except.bind, Machine.textOf_file_toUTF8]
  · exact (hrun (by decide)).trans (Generates.refused load_garden hbed).eq_run
  · exact (hrun (by decide)).trans (Generates.refused load_garden htree).eq_run
  · exact (hrun (by decide)).trans (run_of_load_error hbad)
  · exact (hrun (by decide)).trans (run_of_load_error hmissing)
  · exact (hrun (by decide)).trans (run_of_load_error hsecret)
  · exact (hrun (by decide)).trans hfull

end Command

end MessageSchema
