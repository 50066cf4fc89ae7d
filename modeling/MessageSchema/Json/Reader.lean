import MessageSchema.Json.Token
import MessageSchema.Json.Written

/-!
# Reading JSON text

Tokens are put together in one pass with a stack of the containers that are open. A container
inside 127 others or more is unreadable. Text must be one value and nothing else.
-/

namespace MessageSchema

namespace Written

/-- A container that is open, with what it holds so far in reverse. -/
inductive Frame where
  | arr (items : List Written)
  | obj (entries : List (Option String × Written))
  /-- An object after a key and its colon. -/
  | member (entries : List (Option String × Written)) (key : Option String)

/-- What may come next. -/
inductive Expecting where
  /-- A value. -/
  | value
  /-- The first item of an array, or its end. -/
  | firstItem
  /-- The first key of an object, or its end. -/
  | firstKey
  /-- A key. -/
  | key
  /-- The colon after a key. -/
  | colon (key : Option String)
  /-- A comma or the end of a container. -/
  | separator
  /-- Nothing: the value is complete. -/
  | nothing (value : Written)

/-- The containers that are open, the innermost first, and what may come next. -/
structure Builder where
  expecting : Expecting
  opened : List Frame

/-- How many containers may stand around each other. -/
def greatestDepth : Nat := 127

namespace Builder

/-- Puts a complete value where one is expected. -/
def place (value : Written) : List Frame → Option Builder
  | [] => some ⟨.nothing value, []⟩
  | .arr items :: rest => some ⟨.separator, .arr (value :: items) :: rest⟩
  | .member entries key :: rest => some ⟨.separator, .obj ((key, value) :: entries) :: rest⟩
  | .obj _ :: _ => none

/-- Puts a container where a value is expected, its own frame already closed. -/
def placeContainer (value : Written) (around : List Frame) : Option Builder :=
  place (if around.length < greatestDepth then value else .unreadable) around

/-- A token that starts a value. -/
def startValue (around : List Frame) : Token → Option Builder
  | .openBrace => some ⟨.firstKey, .obj [] :: around⟩
  | .openBracket => some ⟨.firstItem, .arr [] :: around⟩
  | .null => place .null around
  | .bool value => place (.bool value) around
  | .number value => place (value.elim .unreadable .num) around
  | .string value => place (value.elim .unreadable .str) around
  | _ => none

/-- Closes the innermost container. -/
def close (bracket : Token) : List Frame → Option Builder
  | .arr items :: around =>
    match bracket with
    | .closeBracket => placeContainer (.arr items.reverse) around
    | _ => none
  | .obj entries :: around =>
    match bracket with
    | .closeBrace => placeContainer (.obj entries.reverse) around
    | _ => none
  | _ => none

/-- Goes on after a comma. -/
def continueWith : List Frame → Option Builder
  | .arr items :: around => some ⟨.value, .arr items :: around⟩
  | .obj entries :: around => some ⟨.key, .obj entries :: around⟩
  | _ => none

/-- Takes the next token; none if it may not come here. -/
def step? (b : Builder) (token : Token) : Option Builder :=
  match b.expecting, token with
  | .value, token => startValue b.opened token
  | .firstItem, .closeBracket => close .closeBracket b.opened
  | .firstItem, token => startValue b.opened token
  | .firstKey, .closeBrace => close .closeBrace b.opened
  | .firstKey, .string key => some ⟨.colon key, b.opened⟩
  | .key, .string key => some ⟨.colon key, b.opened⟩
  | .colon key, .colon =>
    match b.opened with
    | .obj entries :: around => some ⟨.value, .member entries key :: around⟩
    | _ => none
  | .separator, .comma => continueWith b.opened
  | .separator, token => close token b.opened
  | _, _ => none

/-- Takes all tokens. -/
def run? : Builder → List Token → Option Builder
  | b, [] => some b
  | b, token :: rest => (b.step? token).bind fun b => run? b rest

end Builder

/-- What a list of tokens spells, if it is one value. -/
def ofTokens? (tokens : List Token) : Option Written :=
  match Builder.run? ⟨.value, []⟩ tokens with
  | some ⟨.nothing value, []⟩ => some value
  | _ => none

/-- What a text spells, if it is JSON. -/
def read? [DecimalRounding] (text : String) : Option Written :=
  (Token.scan? text.toList).bind ofTokens?

end Written

/-- The value of a JSON text: none if it is no JSON or some part of it spells no value. -/
def Json.read? [DecimalRounding] (text : String) : Option Json :=
  (Written.read? text).bind Written.toJson?

end MessageSchema
