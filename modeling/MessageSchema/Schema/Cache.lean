import MessageSchema.Schema.Expansion

/-!
# A cache of schemas

Schemas are kept under the full names of their messages. A schema is generated when it is asked for
and not there, and stored if that succeeds. Every stored document has a number of its own, so that
two answers can be told to be one document and not only equal ones.
-/

namespace MessageSchema

/-- A schema that has been stored, with the number it was stored under. -/
structure StoredSchema where
  serial : Nat
  schema : Json
  deriving DecidableEq

/-- Schemas by name, and how many have ever been stored. -/
structure SchemaCache where
  entries : List (String × StoredSchema) := []
  stored : Nat := 0

namespace SchemaCache

/-- The cache without entries. -/
def empty : SchemaCache := {}

/-- What is stored under a name. -/
def find? (cache : SchemaCache) (name : String) : Option StoredSchema :=
  cache.entries.lookup name

/-- Whether something is stored under a name. -/
def contains (cache : SchemaCache) (name : String) : Bool := (cache.find? name).isSome

/-- How many entries there are. -/
def size (cache : SchemaCache) : Nat := cache.entries.length

/-- Puts an entry in the place of the one of its name, or at the end. -/
def putEntry (name : String) (entry : StoredSchema) :
    List (String × StoredSchema) → List (String × StoredSchema)
  | [] => [(name, entry)]
  | (other, old) :: rest =>
    if other = name then (name, entry) :: rest else (other, old) :: putEntry name entry rest

/-- Stores a schema under a name, and answers the stored document. -/
def store (cache : SchemaCache) (name : String) (schema : Json) : StoredSchema × SchemaCache :=
  let entry := ⟨cache.stored, schema⟩
  (entry, ⟨putEntry name entry cache.entries, cache.stored + 1⟩)

/-- The stored schema of a message of a pool; generates and stores it if there is none. -/
def getOrBuild (cache : SchemaCache) (pool : Pool) (m : pool.set.Message) :
    Except SchemaError StoredSchema × SchemaCache :=
  match cache.find? m.val.fullName with
  | some entry => (.ok entry, cache)
  | none =>
    match pool.schemaOf m with
    | .error e => (.error e, cache)
    | .ok schema =>
      let (entry, cache) := cache.store m.val.fullName schema
      (.ok entry, cache)

end SchemaCache

/-- What can be asked of a cache. -/
inductive CacheRequest where
  | build (pool : Pool) (m : pool.set.Message)
  | get (name : String)
  | contains (name : String)

/-- What a cache answers. -/
inductive CacheAnswer where
  | built (result : Except SchemaError StoredSchema)
  | got (entry : Option StoredSchema)
  | contained (isStored : Bool)

namespace SchemaCache

/-- Answers one request. -/
def answer (cache : SchemaCache) : CacheRequest → CacheAnswer × SchemaCache
  | .build pool m =>
    let (result, cache) := cache.getOrBuild pool m
    (.built result, cache)
  | .get name => (.got (cache.find? name), cache)
  | .contains name => (.contained (cache.contains name), cache)

/-- Answers requests one after the other. -/
def run (cache : SchemaCache) : List CacheRequest → List CacheAnswer × SchemaCache
  | [] => ([], cache)
  | request :: rest =>
    let (first, cache) := cache.answer request
    let (answers, cache) := cache.run rest
    (first :: answers, cache)

end SchemaCache

end MessageSchema
