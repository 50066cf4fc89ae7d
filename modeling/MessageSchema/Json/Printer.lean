import MessageSchema.Json.Basic
import MessageSchema.Json.Quoted
import MessageSchema.Number.Layout

/-!
# Writing JSON text

A value is written in one line without blanks (`Json.compact`), or with every member and item on a
line of its own, indented by two blanks per container around it (`Json.pretty`). Integers are
written in decimal, floating-point numbers in the layout of their width.
-/

namespace MessageSchema

/-- An integer in decimal. -/
def writeInt (n : Int) : List Char :=
  if n < 0 then '-' :: digits n.natAbs else digits n.natAbs

/-- A number as text. -/
def Number.write : Number → List Char
  | .int n => writeInt n.val
  | .double d => d.write .double
  | .single s => s.write .single

namespace Json

mutual

/-- The characters of the value without any blanks. -/
def compactChars : Json → List Char
  | .null => ['n', 'u', 'l', 'l']
  | .bool true => ['t', 'r', 'u', 'e']
  | .bool false => ['f', 'a', 'l', 's', 'e']
  | .num n => n.write
  | .str s => Quoted.write s
  | .arr items => '[' :: compactItems items ++ [']']
  | .obj members => '{' :: compactMembers members ++ ['}']

/-- The characters of items with commas between them. -/
def compactItems : List Json → List Char
  | [] => []
  | [item] => item.compactChars
  | item :: rest => item.compactChars ++ ',' :: compactItems rest

/-- The characters of members with commas between them. -/
def compactMembers : List (String × Json) → List Char
  | [] => []
  | [(key, value)] => Quoted.write key ++ ':' :: value.compactChars
  | (key, value) :: rest =>
    Quoted.write key ++ ':' :: value.compactChars ++ ',' :: compactMembers rest

end

/-- A new line inside `depth` containers. -/
def newLine (depth : Nat) : List Char := '\n' :: List.replicate (2 * depth) ' '

mutual

/-- The characters of the value inside `depth` containers, each item and member on its own line. -/
def prettyChars (depth : Nat) : Json → List Char
  | .arr [] => ['[', ']']
  | .arr items => '[' :: prettyItems (depth + 1) items ++ newLine depth ++ [']']
  | .obj [] => ['{', '}']
  | .obj members => '{' :: prettyMembers (depth + 1) members ++ newLine depth ++ ['}']
  | .null => ['n', 'u', 'l', 'l']
  | .bool true => ['t', 'r', 'u', 'e']
  | .bool false => ['f', 'a', 'l', 's', 'e']
  | .num n => n.write
  | .str s => Quoted.write s

/-- The lines of items. -/
def prettyItems (depth : Nat) : List Json → List Char
  | [] => []
  | [item] => newLine depth ++ item.prettyChars depth
  | item :: rest => newLine depth ++ item.prettyChars depth ++ ',' :: prettyItems depth rest

/-- The lines of members. -/
def prettyMembers (depth : Nat) : List (String × Json) → List Char
  | [] => []
  | [(key, value)] =>
    newLine depth ++ Quoted.write key ++ ':' :: ' ' :: value.prettyChars depth
  | (key, value) :: rest =>
    newLine depth ++ Quoted.write key ++ ':' :: ' ' :: value.prettyChars depth ++
      ',' :: prettyMembers depth rest

end

/-- The value as text without blanks. -/
def compact (value : Json) : String := String.ofList value.compactChars

/-- The value as text of indented lines, without a final new line. -/
def pretty (value : Json) : String := String.ofList (value.prettyChars 0)

end Json

end MessageSchema
