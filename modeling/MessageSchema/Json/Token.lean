import MessageSchema.Json.Quoted
import MessageSchema.Json.Literal

/-!
# Tokens of JSON text

Text is cut into tokens in one pass over its characters, without looking ahead: the state says
which token is being read, and a character that cannot continue it ends it. A number or a string
that is well formed and spells no value is a token without a value.
-/

namespace MessageSchema

/-- A token of JSON text. -/
inductive Token where
  | openBrace
  | closeBrace
  | openBracket
  | closeBracket
  | comma
  | colon
  | null
  | bool (value : Bool)
  | number (value : Option Number)
  | string (value : Option String)

namespace Token

/-- What is being read; characters read so far are in reverse. -/
inductive Reading where
  /-- Between two tokens. -/
  | blank
  | word (letters : List Char)
  | number (chars : List Char)
  /-- Inside quotes, `escaped` just after a backslash. -/
  | string (chars : List Char) (escaped : Bool)

/-- The four characters that may stand between tokens. -/
def isBlank (c : Char) : Bool := c = ' ' || c = '\n' || c = '\r' || c = '\t'

/-- The characters that number literals are made of. -/
def isNumberChar (c : Char) : Bool :=
  c.isDigit || c = '-' || c = '+' || c = '.' || c = 'e' || c = 'E'

/-- The token of a word. -/
def ofWord? (letters : List Char) : Option Token :=
  if letters = ['n', 'u', 'l', 'l'] then some .null
  else if letters = ['t', 'r', 'u', 'e'] then some (.bool true)
  else if letters = ['f', 'a', 'l', 's', 'e'] then some (.bool false)
  else none

/-- The token of a number literal. -/
def ofNumber? [DecimalRounding] (chars : List Char) : Option Token :=
  (Literal.read? chars).map fun l => .number l.value?

/-- The token of what stands between quotes. -/
def ofString? (chars : List Char) : Option Token :=
  (Quoted.decode? chars).map fun text => .string (text.map String.ofList)

/-- The tokens that one character makes when no token is being read, and what is read then. -/
def start? (c : Char) : Option (List Token × Reading) :=
  if isBlank c then some ([], .blank)
  else if c = '{' then some ([.openBrace], .blank)
  else if c = '}' then some ([.closeBrace], .blank)
  else if c = '[' then some ([.openBracket], .blank)
  else if c = ']' then some ([.closeBracket], .blank)
  else if c = ',' then some ([.comma], .blank)
  else if c = ':' then some ([.colon], .blank)
  else if c = '"' then some ([], .string [] false)
  else if c = '-' || c.isDigit then some ([], .number [c])
  else if c.isLower then some ([], .word [c])
  else none

/-- The token that ends where no character follows it. -/
def finish? [DecimalRounding] : Reading → Option (List Token)
  | .blank => some []
  | .word letters => (ofWord? letters.reverse).map ([·])
  | .number chars => (ofNumber? chars.reverse).map ([·])
  | .string _ _ => none

/-- Reads one character. -/
def step? [DecimalRounding] (reading : Reading) (c : Char) :
    Option (List Token × Reading) :=
  match reading with
  | .blank => start? c
  | .word letters =>
    if c.isLower then some ([], .word (c :: letters)) else finishBefore (.word letters)
  | .number chars =>
    if isNumberChar c then some ([], .number (c :: chars)) else finishBefore (.number chars)
  | .string chars true => some ([], .string (c :: chars) false)
  | .string chars false =>
    if c = '"' then (ofString? chars.reverse).map fun token => ([token], .blank)
    else some ([], .string (c :: chars) (c = '\\'))
where
  /-- Ends the token before the character and starts with it anew. -/
  finishBefore (reading : Reading) : Option (List Token × Reading) := do
    let before ← finish? reading
    let (after, reading) ← start? c
    return (before ++ after, reading)

/-- The tokens of the rest of a text. -/
def scanFrom? [DecimalRounding] : Reading → List Char → Option (List Token)
  | reading, [] => finish? reading
  | reading, c :: cs => do
    let (tokens, reading) ← step? reading c
    let rest ← scanFrom? reading cs
    return tokens ++ rest

/-- The tokens of a text; none if some part of it is no token. -/
def scan? [DecimalRounding] (cs : List Char) : Option (List Token) := scanFrom? .blank cs

end Token

end MessageSchema
