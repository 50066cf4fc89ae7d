import MessageSchema.Schema.Cache

/-!
# A cache shared by callers

Callers ask one cache for the schemas of messages of a pool, each for one after the other, and their
steps come in any order. A call looks its message up. If nothing is there, the caller generates the
schema by itself and stores it then, whatever others have stored meanwhile.
-/

namespace MessageSchema

/-- How far a call has come. -/
inductive CallPhase (pool : Pool) where
  /-- No call is being made. -/
  | idle
  /-- Nothing was found for the message. -/
  | missed (m : pool.set.Message)
  /-- The schema has been generated and is not stored yet. -/
  | built (m : pool.set.Message) (schema : Json)

/-- The message of the call that is being made. -/
def CallPhase.messages {pool : Pool} : CallPhase pool → List pool.set.Message
  | idle => []
  | missed m | built m _ => [m]

/-- One who makes calls: those still ahead, the one that is being made, and the answers to those
before it. -/
structure Caller (pool : Pool) where
  ahead : List pool.set.Message
  phase : CallPhase pool := .idle
  answered : List (pool.set.Message × Except SchemaError StoredSchema) := []

namespace Caller

variable {pool : Pool}

/-- The caller with the answer to the call that is being made. -/
def answer (c : Caller pool) (m : pool.set.Message) (result : Except SchemaError StoredSchema) :
    Caller pool :=
  { c with phase := .idle, answered := c.answered ++ [(m, result)] }

/-- The next step of a caller with a cache, if there is a call to make. -/
def step? (c : Caller pool) (cache : SchemaCache) : Option (Caller pool × SchemaCache) :=
  match c.phase with
  | .idle =>
    match c.ahead with
    | [] => none
    | m :: rest =>
      match cache.find? m.val.fullName with
      | some entry => some ({ c with ahead := rest }.answer m (.ok entry), cache)
      | none => some ({ c with ahead := rest, phase := .missed m }, cache)
  | .missed m =>
    match pool.schemaOf m with
    | .error e => some (c.answer m (.error e), cache)
    | .ok schema => some ({ c with phase := .built m schema }, cache)
  | .built m schema =>
    let (entry, cache) := cache.store m.val.fullName schema
    some (c.answer m (.ok entry), cache)

/-- Whether all calls have been answered. -/
def isFinished (c : Caller pool) : Bool := c.phase.messages.isEmpty && c.ahead.isEmpty

end Caller

/-- A cache with its callers. -/
structure SharedCache (pool : Pool) where
  cache : SchemaCache
  callers : List (Caller pool)

namespace SharedCache

variable {pool : Pool}

/-- Callers who are about to make the given calls, and an empty cache. -/
def start (programs : List (List pool.set.Message)) : SharedCache pool :=
  { cache := .empty, callers := programs.map fun program => { ahead := program } }

/-- The next step of one of the callers; nothing happens if there is none. -/
def step (s : SharedCache pool) (i : Nat) : SharedCache pool :=
  match s.callers[i]? with
  | none => s
  | some c =>
    match c.step? s.cache with
    | none => s
    | some (next, cache) => { cache, callers := s.callers.set i next }

/-- The steps of callers in the order of a schedule. -/
def run (s : SharedCache pool) (schedule : List Nat) : SharedCache pool := schedule.foldl step s

/-- Whether all calls of all callers have been answered. -/
def isFinished (s : SharedCache pool) : Bool := s.callers.all (·.isFinished)

end SharedCache

end MessageSchema
