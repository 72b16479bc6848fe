import Firewall.Text.Shown

/-!
# Files

The files and folders that a run finds, and what a path leads to among them. A place is given by the
names on the way to it from the root. Only what is listed exists, with the folders above it and
above the working folder.
-/

namespace Firewall

/-- Why a path leads to nothing; an impossible one is no path at all. -/
inductive PathFault where
  | impossible
  | notFound
  | notFolder
  | isFolder
  | nameTooLong
  deriving DecidableEq, Repr

namespace PathFault

def code : PathFault → Nat
  | .notFound => 2
  | .notFolder => 20
  | .isFolder => 21
  | .impossible => 22
  | .nameTooLong => 36

def reason : PathFault → String
  | .notFound => "No such file or directory"
  | .notFolder => "Not a directory"
  | .isFolder => "Is a directory"
  | .impossible => "Invalid argument"
  | .nameTooLong => "File name too long"

def message (f : PathFault) (path : String) : String :=
  "[Errno " ++ Text.decimal f.code ++ "] " ++ f.reason ++ ": " ++ Text.shown path

end PathFault

/-- The files, with their bytes, and the folders that a run finds, and its working folder. -/
structure Files where
  files : List (List String × List UInt8)
  folders : List (List String)
  home : List String

/-- What a path leads to: a file, a folder, or a place where a file may be made. -/
inductive Place where
  | file (place : List String) (content : List UInt8)
  | folder
  | free (place : List String)
  deriving DecidableEq

namespace Files

/-- The greatest number of bytes of a name. -/
def longestName : Nat := 255

/-- The greatest number of bytes of a path. -/
def longestPath : Nat := 4095

/-- Whether there is a folder at a place: every folder above a file or folder is one. -/
def hasFolder (fs : Files) (place : List String) : Bool :=
  place.isPrefixOf fs.home || fs.folders.any place.isPrefixOf ||
    fs.files.any fun f => place.isPrefixOf f.1 && place != f.1

/-- What is at a place. -/
def found (fs : Files) (place : List String) : Place :=
  match fs.files.lookup place with
  | some content => .file place content
  | none => if fs.hasFolder place then .folder else .free place

/-- The place under a name, seen from a folder. The folder above the root is the root. -/
def enter (here : List String) (name : String) : List String :=
  if name = "" ∨ name = "." then here
  else if name = ".." then here.dropLast
  else here ++ [name]

/-- Follows names from a place. -/
def follow (fs : Files) (here : List String) : List String → Except PathFault Place
  | [] => .ok (fs.found here)
  | name :: rest =>
    match fs.found here with
    | .file .. => .error .notFolder
    | .free _ => .error .notFound
    | .folder =>
      if longestName < name.utf8ByteSize then .error .nameTooLong
      else fs.follow (enter here name) rest

/-- The names between the slashes of a path. -/
def namesIn (path : String) : List String := (path.toList.splitOn '/').map String.ofList

/-- What a path leads to: one that begins with a slash from the root, any other from the working
folder. A null character ends no name and stands in none. -/
def find (fs : Files) (path : String) : Except PathFault Place :=
  if path.toList.contains '\x00' then .error .impossible
  else if path.isEmpty then .error .notFound
  else if longestPath < path.utf8ByteSize then .error .nameTooLong
  else fs.follow (if path.startsWith "/" then [] else fs.home) (namesIn path)

/-- The way from the working folder to a place below it. -/
def fromHome? (fs : Files) (place : List String) : Option (List String) :=
  if fs.home.isPrefixOf place then some (place.drop fs.home.length) else none

end Files

/-- The names on a path that lead on. -/
def namesOn (path : String) : List String :=
  (Files.namesIn path).filter fun n => n ≠ "" ∧ n ≠ "."

/-- A path without empty names and names of the same folder. -/
def tidyPath (path : String) : String :=
  let names := namesOn path
  if path.startsWith "/" then "/" ++ "/".intercalate names
  else if names.isEmpty then "." else "/".intercalate names

namespace Files

def bytesAt (fs : Files) (path : String) : Except PathFault (List UInt8) :=
  match fs.find (tidyPath path) with
  | .ok (.file _ content) => .ok content
  | .ok .folder => .error .isFolder
  | .ok (.free _) => .error .notFound
  | .error f => .error f

/-- The place in which a file may be written under a path. -/
def writable (fs : Files) (path : String) : Except PathFault (List String) :=
  match fs.find (tidyPath path) with
  | .ok (.file place _) => .ok place
  | .ok (.free place) => .ok place
  | .ok .folder => .error .isFolder
  | .error f => .error f

end Files

end Firewall
