import MessageSchema.CommandLine.Arguments
import MessageSchema.CommandLine.Machine
import MessageSchema.Descriptor.Loading
import MessageSchema.Verify.Report

/-!
# Commands

A command loads a pool, and prints or writes what it is asked for. It decides everything before it
prints or writes anything (`Command.plan`): a failed command prints nothing and writes nothing, the
report of a check excepted, which is printed whether the check passes or not.
-/

namespace MessageSchema

/-- Why no document is generated. -/
inductive GenerateError where
  | schema (cause : SchemaError)
  /-- The schema of a message, under the name it was asked for by, is not valid. -/
  | fault (message : String) (cause : Fault)
  deriving DecidableEq

namespace GenerateError

/-- The error in words. -/
def message : GenerateError → String
  | schema cause => cause.message
  | fault message cause => cause.messageFor message

/-- Two if there is no schema, one if it is not valid. -/
def exitCode : GenerateError → Nat
  | schema _ => 2
  | fault _ _ => 1

end GenerateError

namespace Pool

/-- The schema of the message of a name; with `check`, only if it is valid. -/
def generateOne [PatternSyntax] (pool : Pool) (check : Bool) (name : String) :
    Except GenerateError Json :=
  match pool.schema name with
  | .error e => .error (.schema e)
  | .ok schema =>
    match if check then schema.fault? else none with
    | some fault => .error (.fault name fault)
    | none => .ok schema

/-- The schemas of messages by name, up to the first that fails. -/
def generateEach [PatternSyntax] (pool : Pool) (check : Bool) :
    List String → Except GenerateError Members
  | [] => .ok []
  | name :: rest => do
    let schema ← pool.generateOne check name
    let others ← pool.generateEach check rest
    return (name, schema) :: others

/-- The document that is asked for: the schema of one message, or an object of all schemas. -/
def generate [PatternSyntax] (pool : Pool) (check : Bool) (message : Option String) :
    Except GenerateError Json :=
  match message with
  | some name => pool.generateOne check name
  | none =>
    (pool.generateEach check (pool.messages.map (·.fullName))).map fun members =>
      .obj (Members.putAll [] members)

end Pool

namespace CheckReport

/-- The lines about one message. -/
def resultText (c : MessageCheck) : String :=
  match c.error with
  | none => "  \x1b[32m✓\x1b[0m " ++ c.message ++ "\n"
  | some error =>
    "  \x1b[31m✗\x1b[0m " ++ c.message ++ "\n" ++ "    \x1b[31merror\x1b[0m: " ++ error ++ "\n"

/-- The report as text. -/
def toText (r : CheckReport) : String :=
  let number (n : Nat) : String := String.ofList (digits n)
  let summary :=
    if r.isOk then
      "\x1b[32m✓ " ++ number r.checked ++ " messages checked, all passed\x1b[0m\n"
    else
      "\x1b[31m✗ " ++ number r.checked ++ " messages checked: " ++ number r.passed ++
        " passed, " ++ number r.failed ++ " failed\x1b[0m\n"
  String.join (r.results.map resultText) ++ "\n" ++ summary

end CheckReport

/-- What a run leaves behind: an exit code, a text on standard output, and messages on standard
error. -/
structure Outcome where
  exitCode : Nat
  output : String := ""
  errors : List String := []
  deriving DecidableEq

namespace Outcome

/-- Success with a text. -/
def print (text : String) : Outcome := { exitCode := 0, output := text }

/-- Failure with a message. -/
def fail (exitCode : Nat) (message : String) : Outcome := { exitCode, errors := [message] }

end Outcome

/-- What a command does last. -/
inductive Plan where
  /-- It ends with an outcome. -/
  | finish (outcome : Outcome)
  /-- It writes a file. -/
  | write (path text : String)
  deriving DecidableEq

namespace Command

/-- The version of the program. -/
def version : String := "proto-jsonschema 0.1.0\n"

/-- How the program is called. -/
def usage : String :=
  "Usage: proto-jsonschema generate DESCRIPTORS [-m MESSAGE] [--output OUTPUT] [--pretty] " ++
    "[--check]\n" ++
    "       proto-jsonschema list DESCRIPTORS\n" ++
    "       proto-jsonschema check DESCRIPTORS [--format FORMAT]\n"

/-- Where the descriptors come from. -/
def source : Command → String
  | generate source _ _ _ _ => source
  | list source => source
  | check source _ => source

/-- What the command does with a pool. -/
def onPool [PatternSyntax] (command : Command) (pool : Pool) : Plan :=
  match command with
  | generate _ message output pretty checked =>
    match pool.generate checked message with
    | .error e => .finish (.fail e.exitCode ("Error: " ++ e.message))
    | .ok document =>
      let text := if pretty then document.pretty else document.compact
      match output with
      | some path => .write path text
      | none => .finish (.print (text ++ "\n"))
  | list _ => .finish (.print (String.join (pool.messages.map (·.fullName ++ "\n"))))
  | check _ format =>
    let report := pool.check
    .finish
      { exitCode := if report.isOk then 0 else 1
        output := if format = "json" then report.toJson.pretty ++ "\n" else report.toText }

/-- What the command does when its source has been loaded, or has not. -/
def plan [PatternSyntax] (command : Command) (loaded : Except LoadError Pool) : Plan :=
  match loaded with
  | .error e => .finish (.fail e.exitCode ("Error: " ++ e.message))
  | .ok pool => command.onPool pool

/-- The outcome of writing a file. -/
def written (path : String) (result : Except String Unit) : Outcome :=
  match result with
  | .ok () => .print ""
  | .error reason => .fail 3 ("Error writing to " ++ path ++ ": " ++ reason)

/-- The text of a file that is a source. A path that leads nowhere is a file that is not found,
whatever keeps it from leading somewhere. -/
def readSource (m : Machine) (path : String) : Except LoadError String :=
  match m.find path with
  | .error _ => .error (.fileNotFound path)
  | .ok (place, node) =>
    match m.refuses (.read place) with
    | some e => .error (.cannotRead path e.message)
    | none => (Machine.textOf node).mapError fun e => .cannotRead path e.message

/-- The descriptor set that a server answers with. An answer that is none counts as no answer. -/
def fetchSet [DecimalRounding] (network : Network) (url : String) :
    Except LoadError DescriptorSet :=
  match network.fetch url with
  | .error reason => .error (.network url reason)
  | .ok text =>
    match DescriptorSet.read? text with
    | some set => .ok set
    | none => .error (.network url (network.unexpected url))

/-- The network, if that is where a source is to be fetched from. A program without one takes every
source for a path. -/
def networkFor? (m : Machine) (source : String) : Option Network :=
  if isUrl source then m.network else none

/-- The pool of a source, which is a URL or a path. -/
def load [DecimalRounding] (m : Machine) (source : String) : Except LoadError Pool :=
  match networkFor? m source with
  | some network =>
    (fetchSet network source).bind fun set => (Pool.ofSet set).mapError .invalidSet
  | none => (readSource m source).bind Pool.read

/-- Runs a command on a machine. -/
def run [DecimalRounding] [PatternSyntax] (command : Command) (m : Machine) : Outcome × Machine :=
  match command.plan (load m command.source) with
  | .finish outcome => (outcome, m)
  | .write path text =>
    match m.write path text with
    | .ok changed => (written path (.ok ()), changed)
    | .error e => (written path (.error e.message), m)

end Command

/-- Does what is asked for. -/
def Invocation.perform [DecimalRounding] [PatternSyntax] (invocation : Invocation) (m : Machine) :
    Outcome × Machine :=
  match invocation with
  | .run command => command.run m
  | .version => (.print Command.version, m)
  | .help => (.print Command.usage, m)
  | .misuse => ({ exitCode := 2, errors := [Command.usage] }, m)

end MessageSchema
