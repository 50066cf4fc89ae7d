import MessageSchema.CommandLine.Arguments
import Mathlib.Data.List.Basic

/-!
# Lines of arguments

Whatever the texts are, there is a line of arguments that asks for documents with just these texts:
values are attached to their options, and the source stands after two dashes
(`Command.generateLine`). It is read as that command, unless the output file has an empty name
(`Invocation.ofArguments_generateLine`).
-/

namespace MessageSchema

namespace Switch

/-- The option as an argument. -/
def flag (switch : Switch) : String := "--" ++ switch.name

/-- The option with a value attached, as an argument. -/
def attach (switch : Switch) (value : String) : String := switch.flag ++ "=" ++ value

theorem name_ne_empty (switch : Switch) : switch.name.toList ≠ [] := by
  cases switch <;> decide

theorem equals_not_mem_name (switch : Switch) : '=' ∉ switch.name.toList := by
  cases switch <;> decide

end Switch

namespace Arguments

/-! ## One argument -/

section Forms

variable {name value : List Char}

theorem form_of_toList {argument : String} (h : argument.toList = '-' :: '-' :: name)
    (hname : name ≠ []) : form argument =
      match name.dropWhile (· ≠ '=') with
      | _ :: value => .long (String.ofList (name.takeWhile (· ≠ '='))) (some (String.ofList value))
      | [] => .long (String.ofList (name.takeWhile (· ≠ '='))) none := by
  unfold form
  rw [h]
  cases name with
  | nil => exact absurd rfl hname
  | cons c rest => rfl

theorem takeWhile_name (h : '=' ∉ name) (rest : List Char) :
    (name ++ rest).takeWhile (· ≠ '=') = name ++ rest.takeWhile (· ≠ '=') :=
  List.takeWhile_append_of_pos fun _ hc => decide_eq_true fun heq => h (heq ▸ hc)

theorem dropWhile_name (h : '=' ∉ name) (rest : List Char) :
    (name ++ rest).dropWhile (· ≠ '=') = rest.dropWhile (· ≠ '=') :=
  List.dropWhile_append_of_pos fun _ hc => decide_eq_true fun heq => h (heq ▸ hc)

end Forms

theorem form_flag (switch : Switch) : form switch.flag = .long switch.name none := by
  have hlist : switch.flag.toList = '-' :: '-' :: switch.name.toList := String.toList_append
  have htake := takeWhile_name switch.equals_not_mem_name []
  have hdrop := dropWhile_name switch.equals_not_mem_name []
  rw [List.append_nil, List.takeWhile_nil, List.append_nil] at htake
  rw [List.append_nil, List.dropWhile_nil] at hdrop
  rw [form_of_toList hlist switch.name_ne_empty, hdrop, htake, String.ofList_toList]

theorem form_attach (switch : Switch) (value : String) :
    form (switch.attach value) = .long switch.name (some value) := by
  have hlist : (switch.attach value).toList =
      '-' :: '-' :: (switch.name.toList ++ '=' :: value.toList) := by
    simp only [Switch.attach, Switch.flag, String.toList_append, List.append_assoc]
    rfl
  have hname : switch.name.toList ++ '=' :: value.toList ≠ [] :=
    List.append_ne_nil_of_left_ne_nil switch.name_ne_empty _
  have hdrop := dropWhile_name switch.equals_not_mem_name ('=' :: value.toList)
  have htake := takeWhile_name switch.equals_not_mem_name ('=' :: value.toList)
  rw [List.takeWhile_cons_of_neg (by decide), List.append_nil] at htake
  rw [List.dropWhile_cons_of_neg (by decide)] at hdrop
  rw [form_of_toList hlist hname, hdrop, htake]
  simp only [String.ofList_toList]

/-! ## A line of them -/

section Reading

variable {known : List Switch} {given : Given} {switch : Switch}

/-- The option belongs to a command, says something about it and has not been given yet. -/
def Given.Takes (given : Given) (known : List Switch) (switch : Switch) : Prop :=
  known.find? (·.name = switch.name) = some switch ∧
    switch ∉ [.help, .version, .verbose] ∧ given.has switch = false

theorem add_eq_ok {value : String} (h : given.Takes known switch)
    (hnamed : ¬ (switch = .output ∧ value = "")) :
    given.add switch value = .ok { given with options := given.options ++ [(switch, value)] } := by
  obtain ⟨-, hown, hnew⟩ := h
  simp only [List.mem_cons, List.not_mem_nil, or_false, not_or] at hown
  obtain ⟨hhelp, hversion, hverbose⟩ := hown
  unfold Given.add
  rw [if_neg hhelp, if_neg hversion, if_neg hverbose, hnew, if_neg Bool.false_ne_true,
    if_neg hnamed]

theorem read_flag (h : given.Takes known switch) (htakes : switch.takesValue = false) (on : Bool)
    (rest : List String) :
    read known given none ((if on then [switch.flag] else []) ++ rest) =
      read known { given with options := given.options ++ if on then [(switch, "")] else [] }
        none rest := by
  cases on with
  | false => simp
  | true =>
    have hadd : given.add switch "" = _ := add_eq_ok h (by rintro ⟨rfl, -⟩; cases htakes)
    simp only [if_true, List.cons_append, List.nil_append]
    rw [read.eq_def]
    simp only [form_flag, long, h.1, htakes, hadd]
    rfl

theorem read_attach (h : given.Takes known switch) (htakes : switch.takesValue = true)
    {value? : Option String} (hnamed : ¬ (switch = .output ∧ value? = some ""))
    (rest : List String) :
    read known given none ((value?.map switch.attach).toList ++ rest) =
      read known { given with options := given.options ++ (value?.map (switch, ·)).toList }
        none rest := by
  cases value? with
  | none => simp
  | some value =>
    have hadd : given.add switch value = _ :=
      add_eq_ok h fun ⟨hswitch, hvalue⟩ => hnamed ⟨hswitch, congrArg some hvalue⟩
    simp only [Option.map_some, Option.toList_some, List.cons_append, List.nil_append]
    rw [read.eq_def]
    simp only [form_attach, long, h.1, htakes, hadd]
    rfl

theorem read_escape (hplain : given.plain = []) (source : String) :
    read known given none ["--", source] = .ok { given with plain := [source] } := by
  have hform : form "--" = .escape := rfl
  rw [read.eq_def]
  simp only [hform, hplain]
  rfl

end Reading

end Arguments

/-- Arguments that ask for documents. -/
def Command.generateLine (source : String) (message output : Option String)
    (pretty checked : Bool) : List String :=
  "generate" :: ((message.map Switch.message.attach).toList ++
    ((output.map Switch.output.attach).toList ++
    ((if pretty then [Switch.pretty.flag] else []) ++
    ((if checked then [Switch.check.flag] else []) ++ ["--", source]))))

namespace Arguments

variable {source : String} {message output : Option String} {pretty checked : Bool}

/-- What such arguments give. -/
def givenBy (source : String) (message output : Option String) (pretty checked : Bool) : Given where
  plain := [source]
  options := (message.map (Switch.message, ·)).toList ++ (output.map (Switch.output, ·)).toList ++
    (if pretty then [(Switch.pretty, "")] else []) ++ if checked then [(Switch.check, "")] else []

theorem top_line : top (Command.generateLine source message output pretty checked) =
    command .generate (Command.generateLine source message output pretty checked).tail := by
  have hform : form "generate" = .plain := rfl
  have hname : CommandName.ofName? "generate" = some .generate := rfl
  unfold Command.generateLine top
  simp only [hform, hname, List.tail_cons]

theorem read_line (h : output ≠ some "") :
    read CommandName.generate.switches {} none
      (Command.generateLine source message output pretty checked).tail =
      .ok (givenBy source message output pretty checked) := by
  have hnamed : ¬ (Switch.output = .output ∧ output = some "") := fun h' => h h'.2
  rw [Command.generateLine, List.tail_cons, read_attach ⟨rfl, by decide, rfl⟩ rfl (by simp),
    read_attach ⟨rfl, by decide, ?_⟩ rfl hnamed, read_flag ⟨rfl, by decide, ?_⟩ rfl,
    read_flag ⟨rfl, by decide, ?_⟩ rfl, read_escape rfl]
  · rfl
  -- no option is there before its turn
  · cases message <;> cases output <;> cases pretty <;> rfl
  · cases message <;> cases output <;> rfl
  · cases message <;> rfl

/-- An output file with an empty name is refused. -/
theorem read_line_of_empty (h : output = some "") :
    read CommandName.generate.switches {} none
      (Command.generateLine source message output pretty checked).tail = .error .misuse := by
  rw [Command.generateLine, List.tail_cons, read_attach ⟨rfl, by decide, rfl⟩ rfl (by simp), h]
  have hlong : long CommandName.generate.switches
      { options := (message.map (Switch.message, ·)).toList } Switch.output.name (some "") =
      .error .misuse := by
    cases message <;> rfl
  simp only [Option.map_some, Option.toList_some, List.cons_append, List.nil_append]
  rw [read.eq_def]
  simp only [form_attach, hlong]
  rfl

end Arguments

open Arguments in
/-- **A line asks for what it says**, except that no output file has an empty name. -/
theorem Invocation.ofArguments_generateLine (source : String) (message output : Option String)
    (pretty checked : Bool) :
    ofArguments (Command.generateLine source message output pretty checked) =
      if output = some "" then .misuse
      else .run (.generate source message output pretty checked) := by
  unfold ofArguments
  rw [top_line, command]
  by_cases h : output = some ""
  · rw [if_pos h, read_line_of_empty h]
    rfl
  · rw [if_neg h, read_line h]
    cases message <;> cases output <;> cases pretty <;> cases checked <;> rfl

end MessageSchema
