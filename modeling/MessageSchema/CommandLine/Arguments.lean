/-!
# Arguments

What is asked for on the command line: a command with its options and the source of the
descriptors, the version or help. Arguments are read from left to right. An option may be given
once, except for the one that asks for more log lines, which may be given anywhere and as often as
wanted. An option's value follows it, or is attached to it, and does not start with a dash unless
it is attached; after two dashes nothing is an option.
-/

namespace MessageSchema

/-- What the program is asked to do with the descriptors of a source. -/
inductive Command where
  /-- Write the schema of one message or of all; `checked` refuses schemas that are not valid. -/
  | generate (source : String) (message output : Option String) (pretty checked : Bool)
  /-- Print the names of all messages. -/
  | list (source : String)
  /-- Report on the schemas of all messages, as JSON or as text. -/
  | check (source format : String)
  deriving DecidableEq

/-- What the program is asked for. -/
inductive Invocation where
  | run (command : Command)
  | version
  | help
  /-- The arguments do not make sense. -/
  | misuse
  deriving DecidableEq

/-- An option. -/
inductive Switch where
  | message
  | output
  | pretty
  | check
  | format
  | verbose
  | version
  | help
  deriving DecidableEq

namespace Switch

/-- Whether a value belongs to the option. -/
def takesValue : Switch → Bool
  | message | output | format => true
  | _ => false

/-- The long name of an option. -/
def name : Switch → String
  | message => "message"
  | output => "output"
  | pretty => "pretty"
  | check => "check"
  | format => "format"
  | verbose => "verbose"
  | version => "version"
  | help => "help"

/-- The letter of an option, if it has one. -/
def letter? : Switch → Option Char
  | message => some 'm'
  | verbose => some 'v'
  | version => some 'V'
  | help => some 'h'
  | _ => none

end Switch

/-- The commands by name. -/
inductive CommandName where
  | generate
  | list
  | check
  | help
  deriving DecidableEq

namespace CommandName

/-- The command of a name. -/
def ofName? (name : String) : Option CommandName :=
  if name = "generate" then some generate
  else if name = "list" then some list
  else if name = "check" then some check
  else if name = "help" then some help
  else none

/-- The options of a command. -/
def switches : CommandName → List Switch
  | generate => [.message, .output, .pretty, .check, .verbose, .help]
  | list => [.verbose, .help]
  | check => [.format, .verbose, .help]
  | help => []

end CommandName

namespace Arguments

/-- How an argument looks. -/
inductive Form where
  /-- Two dashes: no options follow. -/
  | escape
  /-- Two dashes and a name, perhaps with a value after an equals sign. -/
  | long (name : String) (value : Option String)
  /-- A dash and letters. -/
  | short (letters : List Char)
  | plain

/-- The form of an argument. A single dash is plain. -/
def form (argument : String) : Form :=
  match argument.toList with
  | ['-', '-'] => .escape
  | '-' :: '-' :: rest =>
    let name := String.ofList (rest.takeWhile (· ≠ '='))
    match rest.dropWhile (· ≠ '=') with
    | _ :: value => .long name (some (String.ofList value))
    | [] => .long name none
  | '-' :: c :: rest => .short (c :: rest)
  | _ => .plain

/-- What has been read: the plain arguments and the options with their values, empty for options
without one. -/
structure Given where
  plain : List String := []
  options : List (Switch × String) := []

namespace Given

/-- Whether an option is given. -/
def has (given : Given) (switch : Switch) : Bool := (given.options.lookup switch).isSome

/-- The value of an option. -/
def value? (given : Given) (switch : Switch) : Option String := given.options.lookup switch

/-- Adds an option. Help and version end the reading; an option given twice is misuse, and so is an
empty name of an output file. -/
def add (given : Given) (switch : Switch) (value : String) : Except Invocation Given :=
  if switch = .help then .error .help
  else if switch = .version then .error .version
  else if switch = .verbose then .ok given
  else if given.has switch then .error .misuse
  else if switch = .output ∧ value = "" then .error .misuse
  else .ok { given with options := given.options ++ [(switch, value)] }

end Given

/-- Reads letters after a dash; the answer tells which option waits for its value. -/
def letters (known : List Switch) (given : Given) :
    List Char → Except Invocation (Given × Option Switch)
  | [] => .ok (given, none)
  | c :: rest =>
    match known.find? (·.letter? = some c) with
    | none => .error .misuse
    | some switch =>
      if switch.takesValue then
        match rest with
        | [] => .ok (given, some switch)
        | '=' :: value => (given.add switch (String.ofList value)).map (·, none)
        | value => (given.add switch (String.ofList value)).map (·, none)
      else do
        let given ← given.add switch ""
        letters known given rest

/-- Reads a long option; the answer tells whether it waits for its value. -/
def long (known : List Switch) (given : Given) (name : String) (value : Option String) :
    Except Invocation (Given × Option Switch) :=
  match known.find? (·.name = name), value with
  | none, _ => .error .misuse
  | some switch, some value =>
    if switch.takesValue then (given.add switch value).map (·, none) else .error .misuse
  | some switch, none =>
    if switch.takesValue then .ok (given, some switch)
    else (given.add switch "").map (·, none)

/-- Reads the arguments of a command that takes one plain argument. `waiting` is the option whose
value comes next. -/
def read (known : List Switch) (given : Given) (waiting : Option Switch) :
    List String → Except Invocation Given
  | [] => if waiting.isSome then .error .misuse else .ok given
  | argument :: rest =>
    match form argument, waiting with
    | .plain, some switch => do
      let given ← given.add switch argument
      read known given none rest
    | _, some _ => .error .misuse
    | .plain, none =>
      if given.plain = [] then read known { given with plain := [argument] } none rest
      else .error .misuse
    | .escape, none =>
      if (given.plain ++ rest).length ≤ 1 then .ok { given with plain := given.plain ++ rest }
      else .error .misuse
    | .short cs, none => do
      let (given, waiting) ← letters known given cs
      read known given waiting rest
    | .long name value, none => do
      let (given, waiting) ← long known given name value
      read known given waiting rest

/-- The command that the arguments after its name describe. -/
def command (name : CommandName) (arguments : List String) : Except Invocation Invocation := do
  let given ← read name.switches {} none arguments
  match given.plain with
  | source :: _ =>
    match name with
    | .generate =>
      return .run (.generate source (given.value? .message) (given.value? .output)
        (given.has .pretty) (given.has .check))
    | .list => return .run (.list source)
    | .check => return .run (.check source ((given.value? .format).getD "text"))
    | .help => return .help
  | [] => .error .misuse

/-- Reads the arguments up to the name of a command. -/
def top : List String → Except Invocation Invocation
  | [] => .error .misuse
  | argument :: rest =>
    match form argument with
    | .plain =>
      match CommandName.ofName? argument with
      | none => .error .misuse
      | some .help =>
        match rest with
        | [] => .error .help
        | [name] => .error (if (CommandName.ofName? name).isSome then .help else .misuse)
        | _ => .error .misuse
      | some name => command name rest
    | .escape => .error .misuse
    | .short cs => do
      let _ ← letters [.verbose, .version, .help] {} cs
      top rest
    | .long name value => do
      let _ ← long [.verbose, .version, .help] {} name value
      top rest

end Arguments

/-- What a list of arguments asks for. -/
def Invocation.ofArguments (arguments : List String) : Invocation :=
  match Arguments.top arguments with
  | .ok invocation => invocation
  | .error invocation => invocation

end MessageSchema
