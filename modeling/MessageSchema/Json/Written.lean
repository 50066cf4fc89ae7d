import MessageSchema.Json.Basic

/-!
# JSON as it is written

What a JSON text spells is more than a value: a key may be repeated, and some parts spell no value
at all: a number beyond the range of floating point, a string with half of a surrogate pair, a
container inside too many others. Such parts are kept as `Written.unreadable`, because they harm
only a reader that needs them. A value is a special case (`Json.toWritten`); the other way, the
last of repeated keys counts (`Written.toJson?`).
-/

namespace MessageSchema

/-- A JSON text as it is written. A key is none if it spells no text. -/
inductive Written where
  | null
  | bool (value : Bool)
  | num (value : Number)
  | str (value : String)
  | unreadable
  | arr (items : List Written)
  | obj (entries : List (Option String × Written))

namespace Written

instance : Inhabited Written := ⟨null⟩

mutual

/-- The value that is spelled, if every part spells one. Of repeated keys the last one counts and
the first one gives the place. -/
def toJson? : Written → Option Json
  | .null => some .null
  | .bool value => some (.bool value)
  | .num value => some (.num value)
  | .str value => some (.str value)
  | .unreadable => none
  | .arr items => (itemsToJson? items).map .arr
  | .obj entries => (entriesToJson? [] entries).map .obj

/-- The values of a list of items. -/
def itemsToJson? : List Written → Option (List Json)
  | [] => some []
  | item :: rest => do
    let item ← item.toJson?
    let rest ← itemsToJson? rest
    return item :: rest

/-- The members that a list of entries adds to those before them. -/
def entriesToJson? (before : Members) : List (Option String × Written) → Option Members
  | [] => some before
  | (none, _) :: _ => none
  | (some key, value) :: rest => do
    let value ← value.toJson?
    entriesToJson? (Members.put key value before) rest

end

end Written

namespace Json

mutual

/-- A value as something written. -/
def toWritten : Json → Written
  | .null => .null
  | .bool value => .bool value
  | .num value => .num value
  | .str value => .str value
  | .arr items => .arr (itemsToWritten items)
  | .obj members => .obj (membersToWritten members)

/-- The items of a value as something written. -/
def itemsToWritten : List Json → List Written
  | [] => []
  | item :: rest => item.toWritten :: itemsToWritten rest

/-- The members of a value as something written. -/
def membersToWritten : List (String × Json) → List (Option String × Written)
  | [] => []
  | (key, value) :: rest => (some key, value.toWritten) :: membersToWritten rest

end

end Json

end MessageSchema
