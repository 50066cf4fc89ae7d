/-!
# Files

Files and directories by the names that lead to them from the root. A directory is there if it is
named, or if anything is below it; the root is always there. A path is a text whose parts stand
between slashes; what it leads to depends on where a program runs, and on what it may do there.
-/

namespace MessageSchema

/-- Why a file cannot be read or written. -/
inductive FileError where
  | notFound
  | permissionDenied
  | notDirectory
  | isDirectory
  | noSpace
  | readOnly
  | nameTooLong
  | notText
  /-- Any other reason, in words. -/
  | other (reason : String)
  deriving DecidableEq

/-- The error in words. -/
def FileError.message : FileError → String
  | notFound => "No such file or directory (os error 2)"
  | permissionDenied => "Permission denied (os error 13)"
  | notDirectory => "Not a directory (os error 20)"
  | isDirectory => "Is a directory (os error 21)"
  | noSpace => "No space left on device (os error 28)"
  | readOnly => "Read-only file system (os error 30)"
  | nameTooLong => "File name too long (os error 36)"
  | notText => "stream did not contain valid UTF-8"
  | other reason => reason

/-- What a path names. -/
inductive Node where
  | file (content : ByteArray)
  | directory

-- not derived, so that the equality of contents is that of the core library
instance : DecidableEq Node
  | .file a, .file b =>
    @decidable_of_decidable_of_iff (a = b) _ (ByteArray.instDecidableEq a b)
      ⟨congrArg Node.file, Node.file.inj⟩
  | .directory, .directory => isTrue rfl
  | .file _, .directory => isFalse fun h => nomatch h
  | .directory, .file _ => isFalse fun h => nomatch h

/-- The names that lead somewhere from the root. -/
abbrev Place := List String

/-- Files and directories by their places. -/
structure FileSystem where
  entries : List (Place × Node) := []

namespace FileSystem

/-- The bytes that a path may have. -/
def longestPath : Nat := 4095

/-- The bytes that a name may have. -/
def longestName : Nat := 255

/-- The parts of a path between its slashes. -/
def parts : List Char → List (List Char)
  | [] => [[]]
  | c :: rest =>
    match parts rest with
    | [] => [[c]]
    | part :: more => if c = '/' then [] :: part :: more else (c :: part) :: more

/-- The names along a path. -/
def names (path : String) : List String := (parts path.toList).map String.ofList

/-- What is at a place. -/
def node? (fs : FileSystem) (place : Place) : Option Node :=
  if place = [] then some .directory
  else
    match fs.entries.lookup place with
    | some node => some node
    | none =>
      if fs.entries.any fun (other, _) => place.isPrefixOf other then some .directory else none

/-- Puts a file in the place of the one that is there, or at the end. -/
def putFile (place : Place) (content : ByteArray) : List (Place × Node) → List (Place × Node)
  | [] => [(place, .file content)]
  | (other, node) :: rest =>
    if other = place then (place, .file content) :: rest
    else (other, node) :: putFile place content rest

/-- The files with one of them written. -/
def put (fs : FileSystem) (place : Place) (content : ByteArray) : FileSystem :=
  ⟨putFile place content fs.entries⟩

/-- The files as they are found below a directory. -/
def below (directory : Place) (fs : FileSystem) : FileSystem :=
  ⟨fs.entries.map fun (place, node) => (directory ++ place, node)⟩

end FileSystem

end MessageSchema
