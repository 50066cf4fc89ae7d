import MessageSchema.Text.Uppercase

/-!
# JSON names of fields

The JSON name of a field is its name without underscores, where the character after an underscore,
or after several, is in upper case.
-/

namespace MessageSchema.JsonName

/-- The characters of the JSON name; `raised` just after an underscore. -/
def chars (raised : Bool) : List Char → List Char
  | [] => []
  | c :: rest =>
    if c = '_' then chars true rest
    else if raised then Uppercase.ofChar c ++ chars false rest
    else c :: chars false rest

/-- The JSON name derived from a field name. -/
def ofName (name : String) : String := String.ofList (chars false name.toList)

end MessageSchema.JsonName
