import MessageSchema.Number.Hexadecimal
import MessageSchema.Text.Alphanumeric
import MessageSchema.Verify.Property

/-!
# Which texts are patterns

A recogniser of regular expressions, in one pass over the characters. The state says what is being
read and which groups are open around it; a text is a pattern if every character has a place and
nothing is left open at the end (`isValid`). Sets may hold sets and operators on sets, a group has
a name of its own, and there is no reference back to a group. A validator of schemas may take other
texts for patterns (`PatternSyntax`).
-/

namespace MessageSchema.Pattern

/-- What a part of a pattern matches: nothing at all, a place between characters, or characters.
Only the last can be repeated. -/
inductive Content where
  | nothing
  | place
  | text
  deriving DecidableEq

/-- What two parts match one after the other. -/
def Content.append : Content → Content → Content
  | .nothing, c => c
  | c, .nothing => c
  | _, _ => .text

/-- What kind of group stands in parentheses. -/
inductive Group where
  /-- One whose match is kept. -/
  | captured
  /-- One that only holds its parts together. -/
  | plain
  /-- A look at what follows or goes before. -/
  | look
  deriving DecidableEq

/-- What has been read of the inside of a group. -/
structure Inside where
  /-- What the current alternative matches, up to its last part. -/
  before : Content := .nothing
  /-- The last part of the current alternative. -/
  last : Content := .nothing
  /-- Whether there are alternatives before the current one. -/
  isChoice : Bool := false

/-- What all of it matches. -/
def Inside.content (i : Inside) : Content :=
  if i.isChoice then .text else i.before.append i.last

/-- One more part. -/
def Inside.add (i : Inside) (part : Content) : Inside :=
  { i with before := i.before.append i.last, last := part }

/-- What a group is for what stands around it. -/
def Group.content (group : Group) (inside : Inside) : Content :=
  match group with
  | .captured => .text
  | .plain => inside.content
  | .look => .place

/-- What has been read of a range inside brackets; an edge is the code of a character, or none for a
class of characters. -/
inductive Edge where
  | nothing
  | item (code : Option Nat)
  /-- An item and the dash after it. -/
  | dash (code : Option Nat)

/-- Where an escape stands. -/
inductive Position where
  | outside
  | inSet (edge : Edge)

/-- What is being read. -/
inductive Reading where
  /-- Any part; the last part can be repeated if it matches characters. -/
  | part
  /-- After a sign of repetition, which may be made lazy or possessive. -/
  | repeated
  /-- After a lazy repetition, which may be made possessive. -/
  | lazy
  /-- After a complete repetition. -/
  | complete
  /-- The least count of a repetition. -/
  | least (digits : List Char)
  /-- The greatest count of a repetition. -/
  | greatest (least : Nat) (digits : List Char)
  /-- After an opening parenthesis. -/
  | group
  /-- After an opening parenthesis and a question mark. -/
  | groupKind
  /-- After the letter that goes before the sign that starts a name. -/
  | groupLetter
  /-- After the sign that starts a name or looks behind. -/
  | groupAngle
  | groupName (chars : List Char)
  /-- The letters of flags, and whether a dash is the last of them. -/
  | flags (seen : List Char) (dangling : Bool)
  /-- Just inside brackets, perhaps after the sign of the complement. -/
  | setStart (negated : Bool)
  /-- After dashes just inside brackets. -/
  | setDashes
  | set (edge : Edge)
  /-- After a sign inside brackets that makes an operator if it is doubled. -/
  | setSign (sign : Char)
  /-- After a backslash. -/
  | escape (position : Position)
  /-- After the escape of control characters. -/
  | control (position : Position)
  /-- After an escape for so many hexadecimal digits. -/
  | hexStart (digits : Nat) (position : Position)
  /-- So many digits still to come. -/
  | hex (digits value : Nat) (position : Position)
  /-- Digits between braces, so many of them read. -/
  | hexBrace (digits value : Nat) (position : Position)
  /-- After the escape of a property. -/
  | property (position : Position)
  /-- The name of a property between braces, in reverse. -/
  | propertyName (chars : List Char) (position : Position)

/-- What is being read, and what is open around it. -/
structure State where
  reading : Reading := .part
  inside : Inside := {}
  /-- The groups around it, the innermost first, each with what stands before it. -/
  around : List (Group × Inside) := []
  /-- How many brackets are open. -/
  sets : Nat := 0
  /-- The names of groups. -/
  names : List String := []

/-- What an escape stands for. -/
inductive Escaped where
  | char (code : Nat)
  /-- A class of characters. -/
  | several
  /-- A place between characters. -/
  | place

/-! ## Characters -/

/-- The characters that stand for themselves after a backslash. -/
def isPlainEscape (c : Char) : Bool :=
  c.toNat < 128 && !c.isAlphanum && c ≠ '<' && c ≠ '>'

/-- What a letter or a sign after a backslash stands for by itself. -/
def simpleEscape? (c : Char) : Option Escaped :=
  if c = 'a' then some (.char 7)
  else if c = 't' then some (.char 9)
  else if c = 'n' then some (.char 10)
  else if c = 'v' then some (.char 11)
  else if c = 'f' then some (.char 12)
  else if c = 'r' then some (.char 13)
  else if ['d', 'D', 'w', 'W', 's', 'S'].contains c then some .several
  else if ['b', 'B', 'A', 'z', '<', '>'].contains c then some .place
  else if isPlainEscape c then some (.char c.toNat)
  else none

/-- How many hexadecimal digits follow a letter after a backslash. -/
def hexDigits? (c : Char) : Option Nat :=
  if c = 'x' then some 2 else if c = 'u' then some 4 else if c = 'U' then some 8 else none

/-- Whether a code is that of a character. -/
def isCharCode (code : Nat) : Bool := code < 0xD800 || (0xDFFF < code && code < 0x110000)

/-- Whether a character may be the first of a name. -/
def startsName (c : Char) : Bool := c = '_' || Alphanumeric.isAlphabetic c

/-- Whether a character may be in a name. -/
def isInName (c : Char) : Bool := c = '_' || Alphanumeric.isAlphanumeric c

/-- The letters of flags. -/
def isFlag (c : Char) : Bool := ['i', 'm', 's', 'U', 'u', 'x'].contains c

/-- The value of decimal digits in reverse. -/
def count (digits : List Char) : Nat :=
  digits.foldr (fun c n => n * 10 + (c.toNat - 48)) 0

/-! ## Parts -/

namespace State

/-- Goes on to read something else. -/
def go (s : State) (reading : Reading) : Option State := some { s with reading }

/-- Adds a part. -/
def add (s : State) (part : Content) : Option State :=
  some { s with reading := .part, inside := s.inside.add part }

/-- How deep groups may stand in each other. -/
def greatestDepth : Nat := 63

/-- Opens parentheses; which kind of group they hold is not known yet. -/
def openGroup (s : State) : Option State :=
  if s.around.length < greatestDepth then
    some { s with
      reading := .group, inside := {}, around := (.captured, s.inside) :: s.around }
  else none

/-- Makes the innermost group one of a kind and reads its inside. -/
def enterGroup (s : State) (group : Group) : Option State :=
  match s.around with
  | (_, before) :: rest => some { s with reading := .part, around := (group, before) :: rest }
  | [] => none

/-- Closes the innermost group. -/
def closeGroup (s : State) : Option State :=
  match s.around with
  | (group, before) :: rest =>
    { s with inside := before, around := rest }.add (group.content s.inside)
  | [] => none

/-- Drops parentheses that hold only flags. -/
def dropGroup (s : State) : Option State :=
  match s.around with
  | (_, before) :: rest => { s with inside := before, around := rest }.add .nothing
  | [] => none

/-- Starts another alternative. -/
def nextAlternative (s : State) : Option State :=
  some { s with reading := .part, inside := { isChoice := true } }

/-- Repeats the last part, with a sign that stands after `reading`. -/
def repeatWith (s : State) (reading : Reading) : Option State :=
  match s.reading with
  | .part => if s.inside.last = .text then s.go reading else none
  | _ => none

/-- Reads the count of a repetition; a repetition can be counted too. -/
def startCount (s : State) : Option State :=
  match s.reading with
  | .part => if s.inside.last = .text then s.go (.least []) else none
  | _ => s.go (.least [])

/-- Reads a character that starts a part or repeats the last one. -/
def part? (s : State) (c : Char) : Option State :=
  match c with
  | '\\' => s.go (.escape .outside)
  | '(' => s.openGroup
  | ')' => s.closeGroup
  | '|' => s.nextAlternative
  | '[' => { s with sets := 1 }.go (.setStart false)
  | '^' => s.add .place
  | '$' => s.add .place
  | '*' => s.repeatWith .repeated
  | '+' => s.repeatWith .repeated
  | '?' => s.repeatWith .repeated
  | '\x7b' => s.startCount
  | _ => s.add .text

/-! ## Sets -/

/-- Adds a character or a class inside brackets. -/
def addToSet (s : State) (edge : Edge) (code : Option Nat) : Option State :=
  match edge with
  | .dash least =>
    match least, code with
    | some least, some code => if least ≤ code then s.go (.set .nothing) else none
    | _, _ => none
  | _ => s.go (.set (.item code))

/-- Closes the innermost brackets. -/
def closeSet (s : State) : Option State :=
  if s.sets ≤ 1 then { s with sets := 0 }.add .text
  else { s with sets := s.sets - 1 }.go (.set .nothing)

/-- Reads a character inside brackets where an item may begin. -/
def item? (s : State) (c : Char) : Option State :=
  if c = ']' then s.closeSet
  else if c = '[' then { s with sets := s.sets + 1 }.go (.setStart false)
  else if c = '\\' then s.go (.escape (.inSet .nothing))
  else if c = '&' || c = '-' || c = '~' then s.go (.setSign c)
  else s.addToSet .nothing c.toNat

/-- Reads a character inside brackets. -/
def inSet? (s : State) (edge : Edge) (c : Char) : Option State :=
  match edge with
  | .nothing => s.item? c
  | .item code => if c = '-' then s.go (.set (.dash code)) else s.item? c
  | .dash code =>
    if c = ']' then s.closeSet
    else if c = '-' then s.go (.set .nothing)
    else if c = '\\' then s.go (.escape (.inSet (.dash code)))
    else s.addToSet (.dash code) c.toNat

/-! ## Escapes -/

/-- Puts what an escape stands for where the escape stands. -/
def putEscaped (s : State) (position : Position) (escaped : Escaped) : Option State :=
  match position, escaped with
  | .outside, .place => s.add .place
  | .outside, _ => s.add .text
  | .inSet _, .place => none
  | .inSet edge, .char code => s.addToSet edge (some code)
  | .inSet edge, .several => s.addToSet edge none

/-- Puts the character of a code where its escape stands. -/
def putCode (s : State) (position : Position) (code : Nat) : Option State :=
  if isCharCode code then s.putEscaped position (.char code) else none

/-- Reads the character after a backslash. -/
def escape? (s : State) (position : Position) (c : Char) : Option State :=
  if c = 'c' then s.go (.control position)
  else if c = 'p' || c = 'P' then s.go (.property position)
  else
    match hexDigits? c with
    | some digits => s.go (.hexStart digits position)
    | none => (simpleEscape? c).bind (s.putEscaped position)

/-- Reads a hexadecimal digit of an escape, `digits` of which are still to come. -/
def hexDigit? (s : State) (position : Position) (digits value : Nat) (c : Char) : Option State := do
  let digit ← hexValue? c
  let value := value * 16 + digit
  if digits ≤ 1 then s.putCode position value else s.go (.hex (digits - 1) value position)

/-! ## Steps -/

/-- Reads the character after an opening parenthesis and a question mark, or one of the flags that
stand there. -/
def flag? (s : State) (seen : List Char) (dangling : Bool) (c : Char) : Option State :=
  if c = ':' then if dangling then none else s.enterGroup .plain
  else if c = ')' then if dangling || seen.isEmpty then none else s.dropGroup
  else if seen.contains c || (c = 'u' && seen.contains '-') then none
  else if c = '-' then s.go (.flags (c :: seen) true)
  else if isFlag c then s.go (.flags (c :: seen) false)
  else none

/-- Reads one character. -/
def step? (s : State) (c : Char) : Option State :=
  match s.reading with
  | .part => s.part? c
  | .repeated =>
    if c = '?' then s.go .lazy else if c = '+' then s.go .complete else s.part? c
  | .lazy => if c = '+' then s.go .complete else s.part? c
  | .complete => s.part? c
  | .least digits =>
    if c.isDigit then s.go (.least (c :: digits))
    else if digits = [] then none
    else if c = ',' then s.go (.greatest (count digits) [])
    else if c = '\x7d' then s.go .repeated
    else none
  | .greatest least digits =>
    if c.isDigit then s.go (.greatest least (c :: digits))
    else if c = '\x7d' ∧ (digits = [] ∨ least ≤ count digits) then s.go .repeated
    else none
  | .group => if c = '?' then s.go .groupKind else { s with reading := .part }.part? c
  | .groupKind =>
    if c = '=' || c = '!' then s.enterGroup .look
    else if c = '<' then s.go .groupAngle
    else if c = 'P' then s.go .groupLetter
    else s.flag? [] false c
  | .groupLetter => if c = '<' then s.go (.groupName []) else none
  | .groupAngle =>
    if c = '=' || c = '!' then s.enterGroup .look
    else if startsName c then s.go (.groupName [c])
    else none
  | .groupName chars =>
    if c = '>' then
      let name := String.ofList chars.reverse
      if chars = [] ∨ name ∈ s.names then none
      else { s with names := name :: s.names }.enterGroup .captured
    else if (if chars = [] then startsName c else isInName c) then s.go (.groupName (c :: chars))
    else none
  | .flags seen dangling => s.flag? seen dangling c
  | .setStart negated =>
    if c = '^' && !negated then s.go (.setStart true)
    else if c = '-' then s.go .setDashes
    else if c = ']' then s.addToSet .nothing c.toNat
    else s.item? c
  | .setDashes => if c = '-' then s.go .setDashes else s.item? c
  | .set edge => s.inSet? edge c
  | .setSign sign =>
    if c = sign then s.go (.set .nothing) else s.inSet? (.item sign.toNat) c
  | .escape position => s.escape? position c
  | .control position => if c.isAlpha then s.putCode position (c.toNat % 32) else none
  | .hexStart digits position =>
    if c = '\x7b' then s.go (.hexBrace 0 0 position) else s.hexDigit? position digits 0 c
  | .hex digits value position => s.hexDigit? position digits value c
  | .hexBrace digits value position =>
    if c = '\x7d' then if digits = 0 then none else s.putCode position value
    else if digits < 8 then
      (hexValue? c).bind fun digit => s.go (.hexBrace (digits + 1) (value * 16 + digit) position)
    else none
  | .property position =>
    if c = '\x7b' then s.go (.propertyName [] position)
    else if Property.isKnown [c] then s.putEscaped position .several
    else none
  | .propertyName chars position =>
    if c = '\x7d' then
      if Property.isKnown chars.reverse then s.putEscaped position .several else none
    else s.go (.propertyName (c :: chars) position)

/-- Reads characters. -/
def run? : State → List Char → Option State
  | s, [] => some s
  | s, c :: rest => (s.step? c).bind fun s => s.run? rest

/-- Whether a pattern may end here. -/
def isComplete (s : State) : Bool :=
  s.around.isEmpty &&
    match s.reading with
    | .part | .repeated | .lazy | .complete => true
    | _ => false

end State

/-- Whether a text is a pattern. -/
def isValid (text : String) : Bool :=
  (({} : State).run? text.toList).any (·.isComplete)

end MessageSchema.Pattern

namespace MessageSchema

/-- Which texts a validator of schemas takes for regular expressions. -/
class PatternSyntax where
  isPattern : String → Bool

instance : PatternSyntax := ⟨Pattern.isValid⟩

end MessageSchema
