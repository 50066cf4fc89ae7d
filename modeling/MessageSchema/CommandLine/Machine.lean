import MessageSchema.CommandLine.FileSystem

/-!
# What a program runs on

A machine has files and a directory in which programs run, and perhaps a network. A path that starts
with a slash starts from the root, any other from that directory; `..` leads to the directory above,
from the root to the root itself. Every single operation on the files may be refused, for want of
permission or of space or for any other reason (`Machine.refuses`). Writing changes one file and
nothing else, or fails without any change (`Machine.write`).
-/

namespace MessageSchema

/-- An operation on files that may be refused. -/
inductive Operation where
  /-- Looking for a name in a directory. -/
  | search (directory : Place)
  | read (place : Place)
  | write (place : Place) (text : String)

/-- What servers answer. -/
structure Network where
  /-- The text of an answer, or in words why there is none. -/
  fetch (url : String) : Except String String
  /-- In words, that an answer is not what was asked for. -/
  unexpected (url : String) : String

/-- Files, the directory in which programs run, what is refused to them, and the network. -/
structure Machine where
  files : FileSystem := {}
  home : Place := []
  refuses : Operation → Option FileError := fun _ => none
  network : Option Network := none

/-- Files stand for a machine with these files in the directory in which programs run. -/
instance : Coe FileSystem Machine :=
  ⟨fun files => { files := files.below ["work"], home := ["work"] }⟩

namespace Machine

open FileSystem

/-- What is at a place. The directory in which programs run is there, and all above it. -/
def node? (m : Machine) (place : Place) : Option Node :=
  if place.isPrefixOf m.home then some .directory else m.files.node? place

/-- Where a path starts from. A path must not be empty or too long. -/
def start (m : Machine) (path : String) : Except FileError Place :=
  if path = "" then .error .notFound
  else if longestPath < path.utf8ByteSize then .error .nameTooLong
  else .ok (if path.toList.head? = some '/' then [] else m.home)

/-- Goes one step from a directory. -/
def step (m : Machine) (place : Place) (name : String) : Except FileError Place :=
  match m.node? place with
  | some (.file _) => .error .notDirectory
  | none => .error .notFound
  | some .directory =>
    if name = "" then .ok place
    else
      match m.refuses (.search place) with
      | some e => .error e
      | none =>
        if name = "." then .ok place
        else if name = ".." then .ok place.dropLast
        else if longestName < name.utf8ByteSize then .error .nameTooLong
        else .ok (place ++ [name])

/-- Follows steps; only the last place need not be there. -/
def walk (m : Machine) (place : Place) : List String → Except FileError Place
  | [] => .ok place
  | name :: rest => do
    let next ← m.step place name
    m.walk next rest

/-- The place that a path leads to, and what is there. -/
def find (m : Machine) (path : String) : Except FileError (Place × Node) := do
  let place ← m.walk (← m.start path) (names path)
  match m.node? place with
  | some node => .ok (place, node)
  | none => .error .notFound

/-- The text of a file or of what is in its place. -/
def textOf : Node → Except FileError String
  | .directory => .error .isDirectory
  | .file content =>
    match String.fromUTF8? content with
    | some text => .ok text
    | none => .error .notText

/-- The text that stands in a file, also if reading it is refused. -/
def readText (m : Machine) (path : String) : Except FileError String := do
  let (_, node) ← m.find path
  textOf node

/-- Where a path leads that a file is to be written at. A path that ends in a slash or in dots
means a directory. -/
def target (m : Machine) (path : String) : Except FileError Place := do
  let origin ← m.start path
  match (names path).reverse.dropWhile (· = "") with
  | [] => .error .isDirectory
  | last :: before =>
    let parent ← m.walk origin before.reverse
    let place ← m.step parent last
    if (names path).getLast? = some "" ∨ last = "." ∨ last = ".." then .error .isDirectory
    else
      match m.node? place with
      | some .directory => .error .isDirectory
      | _ => .ok place

/-- Writes a text to a file. -/
def write (m : Machine) (path text : String) : Except FileError Machine := do
  let place ← m.target path
  match m.refuses (.write place text) with
  | some e => .error e
  | none => return { m with files := m.files.put place text.toUTF8 }

end Machine

end MessageSchema
