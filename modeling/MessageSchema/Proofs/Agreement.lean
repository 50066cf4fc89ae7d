import MessageSchema.Proofs.Members
import MessageSchema.Proofs.Resolution
import MessageSchema.Proofs.Sources
import MessageSchema.Proofs.Walk
import Mathlib.Data.List.Permutation

/-!
# Commands on one source

`check` takes each message of the pool as it is; `generate` without a message takes each by its
name, which is looked up and loses one more leading dot. A message is found under its name exactly
when the name it was declared under does not begin with two dots (`message?_fullName_iff`). Where no
declared name does, the two commands accept the same sources, and what `generate` prints has the
schema of each message under the name that `list` prints in its place (`commands_agree`). A message
declared with two dots is not found, or another one is in its place (`dotted_commands_disagree`).
-/

namespace MessageSchema

namespace Pool

open DescriptorSet

variable {pool : Pool}

/-! ## Messages by their names -/

/-- A message is found under its full name if that has no leading dot left. -/
theorem message?_fullName_iff {m : MessageType} (hm : m ∈ pool.set.messages) :
    pool.message? m.fullName = some m ↔ ¬ HasTwoDots m.declaredName := by
  rw [← plainName_plainName_eq_iff]
  refine pool.message?_eq_some_iff.trans ⟨fun h => h.2.symm, fun h => ?_⟩
  exact ⟨hm, h.symm⟩

theorem eq_of_message? {name : String} {m n : pool.set.Message}
    (hm : pool.message? name = some m.val) (hn : pool.message? name = some n.val) : m = n :=
  Subtype.ext (Option.some.inj (hm.symm.trans hn))

theorem schema_eq_ok_iff {name : String} {document : Json} :
    pool.schema name = .ok document ↔
      ∃ m : pool.set.Message, pool.message? name = some m.val ∧ pool.schemaOf m = .ok document := by
  unfold schema
  split
  · next m hm =>
    constructor
    · intro h
      exact ⟨_, hm, h⟩
    · rintro ⟨⟨n, _⟩, hn, h⟩
      obtain rfl : m = n := Option.some.inj (hm.symm.trans hn)
      exact h
  · next hm =>
    constructor
    · intro h; cases h
    · rintro ⟨n, hn, -⟩
      rw [hm] at hn
      cases hn

/-- A property of the schema that is found under a name can be told from the walk. -/
theorem exists_schema_with {name : String} {p : Json → Bool}
    (h : pool.messages.attach.any (fun m => decide (m.val.fullName = plainName name) &&
      ((pool.set.walkMessage m).run []).1.toOption.any p) = true) :
    ∃ schema, pool.schema name = .ok schema ∧ p schema = true := by
  obtain ⟨m, -, hm⟩ := List.any_eq_true.1 h
  rw [Bool.and_eq_true, decide_eq_true_eq] at hm
  obtain ⟨hname, hwalk⟩ := hm
  obtain ⟨schema, hschema, hp⟩ := exists_schemaOf_with hwalk
  exact ⟨schema, schema_eq_ok_iff.2 ⟨m, pool.message?_eq_some_iff.2 ⟨m.property, hname⟩, hschema⟩,
    hp⟩

/-! ## What the commands accept -/

section Accepting

variable [PatternSyntax]

/-- The message has a schema, which is valid if that is asked for. -/
def Accepts (pool : Pool) (checked : Bool) (m : pool.set.Message) (document : Json) : Prop :=
  pool.schemaOf m = .ok document ∧ (checked = true → document.fault? = none)

theorem generateOne_eq_ok_iff {checked : Bool} {name : String} {document : Json} :
    pool.generateOne checked name = .ok document ↔
      ∃ m : pool.set.Message, pool.message? name = some m.val ∧
        pool.Accepts checked m document := by
  have hschema := @schema_eq_ok_iff pool name
  unfold generateOne Accepts
  cases hs : pool.schema name with
  | error e =>
    constructor
    · intro h; cases h
    · rintro ⟨m, hm, hdocument, -⟩
      rw [hschema.2 ⟨m, hm, hdocument⟩] at hs
      cases hs
  | ok schema =>
    obtain ⟨m, hm, hdocument⟩ := hschema.1 hs
    simp only
    constructor
    · intro h
      split at h
      · cases h
      · next hfault =>
        cases h
        refine ⟨m, hm, hdocument, fun hchecked => ?_⟩
        rwa [if_pos hchecked] at hfault
    · rintro ⟨n, hn, hother, hvalid⟩
      obtain rfl := eq_of_message? hm hn
      obtain rfl : schema = document := Except.ok.inj (hdocument.symm.trans hother)
      cases checked with
      | false => rfl
      | true => rw [if_pos rfl, hvalid rfl]

theorem generateOne_of_valid {checked : Bool} {name : String} {schema : Json}
    (h : pool.schema name = .ok schema) (hvalid : schema.fault? = none) :
    pool.generateOne checked name = .ok schema := by
  unfold generateOne
  simp only [h, hvalid, ite_self]

theorem generateEach_eq_ok_iff {checked : Bool} {names : List String} {members : Members} :
    pool.generateEach checked names = .ok members ↔
      List.Forall₂ (fun name member => member.1 = name ∧
        pool.generateOne checked name = .ok member.2) names members := by
  induction names generalizing members with
  | nil =>
    rw [generateEach, List.forall₂_nil_left_iff, Except.ok.injEq]
    exact eq_comm
  | cons name rest ih =>
    rw [generateEach]
    constructor
    · intro h
      cases hone : pool.generateOne checked name with
      | error e => rw [hone] at h; cases h
      | ok schema =>
        cases hrest : pool.generateEach checked rest with
        | error e => rw [hone, hrest] at h; cases h
        | ok others =>
          rw [hone, hrest] at h
          cases h
          exact .cons ⟨rfl, hone⟩ (ih.1 hrest)
    · rintro (_ | ⟨⟨rfl, hone⟩, hrest⟩)
      rw [hone, ih.2 hrest]
      rfl

/-- The document of all schemas has a member for each message, in order, with the schema of the
message that is found under its name. -/
theorem exists_members_of_generate {checked : Bool} {document : Json}
    (h : pool.generate checked none = .ok document) :
    ∃ members : Members, document = .obj members ∧
      members.map Prod.fst = pool.messages.map (·.fullName) ∧
      List.Forall₂ (fun m member => member.1 = m.fullName ∧ ∃ n : pool.set.Message,
        pool.message? m.fullName = some n.val ∧ pool.schemaOf n = .ok member.2)
        pool.messages members := by
  unfold generate at h
  cases heach : pool.generateEach checked (pool.messages.map (·.fullName)) with
  | error e => rw [heach] at h; cases h
  | ok members =>
    rw [heach] at h
    cases h
    have hmembers := generateEach_eq_ok_iff.1 heach
    have hkeys : pool.messages.map (·.fullName) = members.map Prod.fst := by
      rw [← List.forall₂_eq_eq_eq, List.forall₂_map_right_iff]
      exact hmembers.imp fun _ _ hmember => hmember.1.symm
    have hnodup : (members.map Prod.fst).Nodup := by
      rw [← hkeys]
      exact List.Nodup.of_append_left pool.names_nodup
    have hputs : Members.putAll [] members = members := Members.putAll_of_nodup hnodup
    refine ⟨members, congrArg Json.obj hputs, hkeys.symm, ?_⟩
    rw [List.forall₂_map_left_iff] at hmembers
    refine hmembers.imp fun m member ⟨hname, hone⟩ => ⟨hname, ?_⟩
    obtain ⟨n, hn, hschema, -⟩ := generateOne_eq_ok_iff.1 hone
    exact ⟨n, hn, hschema⟩

/-- All schemas are generated when each message is accepted that is found under the name of a
message. -/
theorem exists_generate_iff {checked : Bool} :
    (∃ document, pool.generate checked none = .ok document) ↔ ∀ m ∈ pool.messages,
      ∃ n : pool.set.Message, pool.message? m.fullName = some n.val ∧
        ∃ document, pool.Accepts checked n document := by
  have heach : (∃ document, pool.generate checked none = .ok document) ↔
      ∃ members, pool.generateEach checked (pool.messages.map (·.fullName)) = .ok members := by
    unfold generate
    cases pool.generateEach checked (pool.messages.map (·.fullName)) with
    | error e =>
      constructor <;>
      · rintro ⟨_, h⟩
        cases h
    | ok members => exact ⟨fun _ => ⟨_, rfl⟩, fun _ => ⟨_, rfl⟩⟩
  simp only [heach, generateEach_eq_ok_iff, exists_forall₂_iff, List.forall_mem_map,
    generateOne_eq_ok_iff]
  constructor
  · intro h m hm
    obtain ⟨_, -, n, hn, haccepts⟩ := h m hm
    exact ⟨n, hn, _, haccepts⟩
  · intro h m hm
    obtain ⟨n, hn, document, haccepts⟩ := h m hm
    exact ⟨(m.fullName, document), rfl, n, hn, haccepts⟩

end Accepting

end Pool

namespace CheckReport

theorem isOk_iff {r : CheckReport} : r.isOk = true ↔ ∀ c ∈ r.results, c.isOk = true := by
  have hle : r.passed ≤ r.checked := List.countP_le_length
  rw [isOk, failed, decide_eq_true_iff, ← List.countP_eq_length]
  show r.checked - r.passed = 0 ↔ r.passed = r.checked
  omega

end CheckReport

theorem MessageCheck.isOk_ofSchema_iff [PatternSyntax] {message : String}
    {schema : Except SchemaError Json} :
    (ofSchema message schema).isOk = true ↔
      ∃ document, schema = .ok document ∧ document.fault? = none := by
  cases schema with
  | error e =>
    constructor
    · intro h; cases h
    · rintro ⟨_, h, -⟩; cases h
  | ok document =>
    simp only [ofSchema, isOk, Option.isNone_map, Option.isNone_iff_eq_none, Except.ok.injEq,
      exists_eq_left']

namespace Pool

variable [PatternSyntax] {pool : Pool}

/-- A message is accepted if the walk over it finds a valid schema. -/
theorem exists_accepts (m : pool.set.Message)
    (h : ((pool.set.walkMessage m).run []).1.toOption.any (·.fault?.isNone) = true) :
    ∃ document, pool.Accepts true m document := by
  obtain ⟨document, hdocument, hvalid⟩ := exists_schemaOf_with h
  exact ⟨document, hdocument, fun _ => Option.isNone_iff_eq_none.1 hvalid⟩

/-- A check passes when each message is accepted. -/
theorem check_isOk_iff :
    pool.check.isOk = true ↔ ∀ m : pool.set.Message, ∃ document, pool.Accepts true m document := by
  simp only [CheckReport.isOk_iff, pool.check_results, List.forall_mem_map,
    MessageCheck.isOk_ofSchema_iff, Accepts, forall_const]
  exact ⟨fun h m => h m (List.mem_attach _ m), fun h m _ => h m⟩

end Pool

namespace Command

section Agreeing

variable [DecimalRounding] [PatternSyntax] {m : Machine} {source : String} {pool : Pool}

theorem run_of_loaded (command : Command)
    (loaded : load m command.source = .ok pool)
    {outcome : Outcome} (h : command.onPool pool = .finish outcome) :
    command.run m = (outcome, m) := by
  unfold run plan
  rw [loaded]
  simp only [h]

/-- What `list` prints. -/
theorem run_list (loaded : load m source = .ok pool) :
    (list source).run m =
      (.print (String.join (pool.messages.map (·.fullName ++ "\n"))), m) :=
  run_of_loaded (list source) loaded rfl

/-- Whether a check passes can be told from the exit code. -/
theorem check_exitCode_eq_zero_iff (loaded : load m source = .ok pool)
    {format : String} : ((check source format).run m).1.exitCode = 0 ↔ pool.check.isOk = true := by
  rw [run_of_loaded (check source format) loaded rfl]
  show (if pool.check.isOk = true then 0 else 1) = 0 ↔ _
  split
  · next hok => exact ⟨fun _ => hok, fun _ => rfl⟩
  · next hfailed => exact ⟨fun h => absurd h Nat.one_ne_zero, fun hok => absurd hok hfailed⟩

/-- What `generate` prints if it is not to write a file. -/
theorem run_generate (loaded : load m source = .ok pool)
    {message : Option String} {pretty checked : Bool} :
    (generate source message none pretty checked).run m =
      (match pool.generate checked message with
        | .error e => .fail e.exitCode ("Error: " ++ e.message)
        | .ok document => .print ((if pretty then document.pretty else document.compact) ++ "\n"),
        m) := by
  refine run_of_loaded (generate source message none pretty checked) loaded ?_
  simp only [onPool]
  cases pool.generate checked message <;> rfl

theorem generate_exitCode_eq_zero_iff (loaded : load m source = .ok pool)
    {message : Option String} {pretty checked : Bool} :
    ((generate source message none pretty checked).run m).1.exitCode = 0 ↔
      ∃ document, pool.generate checked message = .ok document := by
  rw [run_generate loaded]
  cases pool.generate checked message with
  | ok document => exact ⟨fun _ => ⟨document, rfl⟩, fun _ => rfl⟩
  | error e =>
    constructor
    · intro h
      cases e <;> cases h
    · rintro ⟨_, h⟩
      cases h

/-- **`check` and `generate` agree on every source in which no name is declared with two dots**: a
message is found under its own name exactly if its name is not declared so. Then one accepts the
source if the other does. What `generate` prints is an object with the lines of `list` as its keys,
in order, and under each key the schema of that very message. -/
theorem commands_agree (loaded : load m source = .ok pool) :
    (∀ m ∈ pool.messages, pool.message? m.fullName = some m ↔ ¬ HasTwoDots m.declaredName) ∧
    ((∀ m ∈ pool.messages, ¬ HasTwoDots m.declaredName) → ∀ format pretty,
      (((check source format).run m).1.exitCode = 0 ↔
        ((generate source none none pretty true).run m).1.exitCode = 0)) ∧
    ∀ pretty checked, ((generate source none none pretty checked).run m).1.exitCode = 0 →
      ∃ members : Members,
        ((generate source none none pretty checked).run m).1.output =
          (if pretty then (Json.obj members).pretty else (Json.obj members).compact) ++ "\n" ∧
        ((list source).run m).1.output = String.join (members.map (·.1 ++ "\n")) ∧
        List.Forall₂ (fun m member => member.1 = m.val.fullName ∧
          (¬ HasTwoDots m.val.declaredName → pool.schemaOf m = .ok member.2))
          pool.messages.attach members := by
  refine ⟨fun m hm => Pool.message?_fullName_iff hm, fun hplain format pretty => ?_,
    fun pretty checked h => ?_⟩
  · rw [check_exitCode_eq_zero_iff loaded, generate_exitCode_eq_zero_iff loaded,
      Pool.check_isOk_iff, Pool.exists_generate_iff]
    have hfound : ∀ m : pool.set.Message, pool.message? m.val.fullName = some m.val := fun m =>
      (Pool.message?_fullName_iff m.property).2 (hplain m.val m.property)
    -- the message that is found under the name of `m` is `m`
    constructor
    · intro h m hm
      exact ⟨⟨m, hm⟩, hfound ⟨m, hm⟩, h ⟨m, hm⟩⟩
    · intro h m
      obtain ⟨n, hn, haccepts⟩ := h m.val m.property
      obtain rfl := Pool.eq_of_message? (hfound m) hn
      exact haccepts
  · obtain ⟨document, hdocument⟩ := (generate_exitCode_eq_zero_iff loaded).1 h
    obtain ⟨members, rfl, hkeys, hmembers⟩ := Pool.exists_members_of_generate hdocument
    refine ⟨members, ?_, ?_, ?_⟩
    · rw [run_generate loaded, hdocument]
      rfl
    · have hlines : members.map (·.1 ++ "\n") = pool.messages.map (·.fullName ++ "\n") := by
        have happend := congrArg (List.map (· ++ "\n")) hkeys
        rwa [List.map_map, List.map_map] at happend
      rw [run_list loaded, hlines]
      rfl
    · rw [← List.attach_map_subtype_val pool.messages, List.forall₂_map_left_iff] at hmembers
      refine hmembers.imp fun m member ⟨hname, n, hn, hschema⟩ => ⟨hname, fun hdots => ?_⟩
      have hfound := (Pool.message?_fullName_iff m.property).2 hdots
      obtain rfl := Pool.eq_of_message? hfound hn
      exact hschema

end Agreeing

/-- A directory with one file in it. -/
def filesWith (text : String) : FileSystem := { entries := [(["set.json"], .file text.toUTF8)] }

theorem readSource_filesWith (text : String) :
    readSource (filesWith text) "set.json" = .ok text :=
  readSource_of_find rfl rfl

theorem load_of_decoded [DecimalRounding] {pool : Pool} {text : String}
    (h : DescriptorSet.read? text = some pool.set) :
    load (filesWith text) "set.json" = .ok pool := by
  have hplace : networkFor? (filesWith text) "set.json" = none := ite_self none
  unfold load
  rw [hplace]
  simp only [readSource_filesWith, Except.bind, Pool.read, h]
  rw [pool.ofSet_set]
  rfl

/-- The text of a set of two messages, one of them declared with a dot. -/
def plainText : String :=
  "\x7b\"messages\":[\x7b\"full_name\":\".a.B\"\x7d,\x7b\"full_name\":\"a.C\"\x7d]\x7d"

def plainPool : Pool where
  set := { messages := [{ declaredName := ".a.B" }, { declaredName := "a.C" }] }
  sound := by decide

def plainB : plainPool.set.Message := ⟨{ declaredName := ".a.B" }, .head _⟩

def plainC : plainPool.set.Message := ⟨{ declaredName := "a.C" }, .tail _ (.head _)⟩

set_option maxRecDepth 2048 in
theorem plain_loaded : load (filesWith plainText) "set.json" = .ok plainPool :=
  load_of_decoded (by cbv)

theorem plain_commands_agree :
    ((check "set.json" "text").run (filesWith plainText)).1.exitCode = 0 ∧
    ((generate "set.json" none none true true).run (filesWith plainText)).1.exitCode = 0 ∧
    ∃ first second,
      ((generate "set.json" none none true true).run (filesWith plainText)).1.output =
        (Json.obj [("a.B", first), ("a.C", second)]).pretty ++ "\n" ∧
      ((list "set.json").run (filesWith plainText)).1.output = "a.B\na.C\n" ∧
      plainPool.schemaOf plainB = .ok first ∧ plainPool.schemaOf plainC = .ok second := by
  obtain ⟨-, hexit, houtput⟩ := commands_agree plain_loaded
  have hdots : ∀ m ∈ plainPool.messages,
      plainName (plainName m.declaredName) = plainName m.declaredName := by decide
  have hplain : ∀ m ∈ plainPool.messages, ¬ HasTwoDots m.declaredName := fun m hm =>
    plainName_plainName_eq_iff.1 (hdots m hm)
  have hvalid : ∀ m ∈ plainPool.messages.attach,
      ((plainPool.set.walkMessage m).run []).1.toOption.any (·.fault?.isNone) = true := by
    decide +kernel
  have hcheck : ((check "set.json" "text").run (filesWith plainText)).1.exitCode = 0 :=
    (check_exitCode_eq_zero_iff plain_loaded).2
      (Pool.check_isOk_iff.2 fun m => Pool.exists_accepts m (hvalid m (List.mem_attach _ m)))
  have hgenerate := (hexit hplain "text" true).1 hcheck
  obtain ⟨members, hprinted, hlisted, hmembers⟩ := houtput true true hgenerate
  have hboth : List.Forall₂ _ [plainB, plainC] members := hmembers
  obtain _ | ⟨⟨hb, hfirst⟩, _ | ⟨⟨hc, hsecond⟩, _ | _⟩⟩ := hboth
  next first second =>
  obtain ⟨nameB, first⟩ := first
  obtain ⟨nameC, second⟩ := second
  have hnames : plainB.val.fullName = "a.B" ∧ plainC.val.fullName = "a.C" := by decide
  obtain rfl : nameB = "a.B" := hb.trans hnames.1
  obtain rfl : nameC = "a.C" := hc.trans hnames.2
  exact ⟨hcheck, hgenerate, first, second, hprinted, hlisted,
    hfirst (hplain _ plainB.property), hsecond (hplain _ plainC.property)⟩

/-- The text of a set whose only message is declared with two dots. -/
def dottedText : String := "\x7b\"messages\":[\x7b\"full_name\":\"..a.B\"\x7d]\x7d"

def dottedPool : Pool where
  set := { messages := [{ declaredName := "..a.B" }] }
  sound := by decide

set_option maxRecDepth 2048 in
theorem dotted_loaded : load (filesWith dottedText) "set.json" = .ok dottedPool :=
  load_of_decoded (by cbv)

/-- `check` accepts the message that is declared with two dots, and `generate` does not find it. -/
theorem dotted_commands_disagree :
    load (filesWith dottedText) "set.json" = .ok dottedPool ∧
    ((check "set.json" "text").run (filesWith dottedText)).1.exitCode = 0 ∧
    ((generate "set.json" none none false true).run (filesWith dottedText)).1 =
      .fail 2 "Error: message descriptor not found: .a.B" := by
  have hvalid : ∀ m ∈ dottedPool.messages.attach,
      ((dottedPool.set.walkMessage m).run []).1.toOption.any (·.fault?.isNone) = true := by
    decide +kernel
  refine ⟨dotted_loaded, (check_exitCode_eq_zero_iff dotted_loaded).2
    (Pool.check_isOk_iff.2 fun m => Pool.exists_accepts m (hvalid m (List.mem_attach _ m))), ?_⟩
  have hgenerate : dottedPool.generate true none =
      .error (.schema (.messageNotFound ".a.B")) := by
    decide +kernel
  rw [run_generate dotted_loaded, hgenerate]
  rfl

end Command

end MessageSchema
