import MessageSchema.Schema.Expansion
import MessageSchema.Verify.Vocabulary

/-!
# Checking a pool

Every message of a pool is checked: its schema must exist and be a valid schema without references.
The report says so message by message, and how many there are of either kind.
-/

namespace MessageSchema

/-- The text of a fault in the schema of a message. -/
def Fault.messageFor (fault : Fault) (message : String) : String :=
  "schema for " ++ message ++ " is not valid JSON Schema: " ++ fault.message

/-- What came of one message: nothing, or what is wrong with it. -/
structure MessageCheck where
  message : String
  error : Option String
  deriving DecidableEq

/-- What came of every message of a pool, in order. -/
structure CheckReport where
  results : List MessageCheck

namespace MessageCheck

/-- Whether nothing is wrong. -/
def isOk (c : MessageCheck) : Bool := c.error.isNone

/-- The check of a message from the outcome of its expansion. -/
def ofSchema [PatternSyntax] (message : String) (schema : Except SchemaError Json) :
    MessageCheck :=
  match schema with
  | .error e => ⟨message, some e.message⟩
  | .ok schema => ⟨message, schema.fault?.map (·.messageFor message)⟩

/-- The check as JSON. -/
def toJson (c : MessageCheck) : Json := .ofOptional [
  ("message", some (.str c.message)),
  ("status", some (.str (if c.isOk then "ok" else "error"))),
  ("error", c.error.map .str)]

end MessageCheck

namespace CheckReport

/-- How many messages were checked. -/
def checked (r : CheckReport) : Nat := r.results.length

/-- How many of them nothing is wrong with. -/
def passed (r : CheckReport) : Nat := r.results.countP (·.isOk)

/-- How many of them something is wrong with. -/
def failed (r : CheckReport) : Nat := r.checked - r.passed

/-- Whether nothing is wrong at all. -/
def isOk (r : CheckReport) : Bool := r.failed = 0

/-- The report as JSON. -/
def toJson (r : CheckReport) : Json := .obj [
  ("checked", .count r.checked),
  ("passed", .count r.passed),
  ("failed", .count r.failed),
  ("results", .arr (r.results.map (·.toJson)))]

end CheckReport

/-- Checks every message of a pool. -/
def Pool.check [PatternSyntax] (pool : Pool) : CheckReport :=
  ⟨pool.schemas.map fun (m, schema) => .ofSchema m.fullName schema⟩

theorem Pool.check_results [PatternSyntax] (pool : Pool) : pool.check.results =
    pool.messages.attach.map fun m => .ofSchema m.val.fullName (pool.schemaOf m) :=
  List.map_map

end MessageSchema
