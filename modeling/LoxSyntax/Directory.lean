/-!
# Files by name

A directory answers what lies at a path. One that is given by a list of entries follows a path part
by part: empty parts and single dots stay, two dots go up, and whatever has a part after it must be
a directory.
-/
namespace LoxSyntax

/-- Why a path gives no text. -/
inductive ReadError
  | notFound
  | notDirectory
  | isDirectory
  | notAllowed
  | notUtf8
  deriving DecidableEq, Repr

def ReadError.message : ReadError → String
  | notFound => "No such file or directory (os error 2)"
  | notDirectory => "Not a directory (os error 20)"
  | isDirectory => "Is a directory (os error 21)"
  | notAllowed => "Permission denied (os error 13)"
  | notUtf8 => "stream did not contain valid UTF-8"

/-- What a path leads to; a locked file may not be opened. -/
inductive Entry
  | file (content : ByteArray)
  | locked
  | directory

def Entry.isFile : Entry → Bool
  | file _ | locked => true
  | directory => false

def Entry.readText : Entry → Except ReadError String
  | directory => .error .isDirectory
  | locked => .error .notAllowed
  | file content =>
    match String.fromUTF8? content with
    | some text => .ok text
    | none => .error .notUtf8

/-- What lies at each path. -/
structure Directory where
  find : String → Except ReadError Entry

/-- The parts of a path between its slashes. -/
def pathParts (path : String) : List (List Char) := path.toList.splitOn '/'

/-- Whether a part leads nowhere else. -/
def isSelfPart (part : List Char) : Bool := part.isEmpty || part = ['.']

/-- The part that leads up. -/
def parentPart : List Char := ['.', '.']

def namedParts (path : String) : List (List Char) := (pathParts path).filter (!isSelfPart ·)

namespace Directory

/-- The file at a path. -/
def file? (d : Directory) (path : String) : Option Entry :=
  match d.find path with
  | .ok entry => if entry.isFile then some entry else none
  | .error _ => none

/-- The text of a file at a path. -/
def readText (d : Directory) (path : String) : Except ReadError String :=
  match d.find path with
  | .ok entry => entry.readText
  | .error cause => .error cause

/-- What a list of entries has at a place: parents of an entry are directories, and so is every
place above the list. -/
def entryAt? (entries : List (String × Entry)) (place : List (List Char)) : Option Entry :=
  if place.all (· = parentPart) then some .directory
  else
    match entries.find? fun (name, _) => namedParts name = place with
    | some (_, entry) => some entry
    | none =>
      if entries.any fun (name, _) => place.isPrefixOf (namedParts name) then some .directory
      else none

/-- The place one part onwards. -/
def move (place : List (List Char)) (part : List Char) : List (List Char) :=
  if isSelfPart part then place
  else if part = parentPart && place.getLast?.any (· ≠ parentPart) then place.dropLast
  else place ++ [part]

/-- Follows the parts of a path from a place. -/
def follow (entries : List (String × Entry)) (place : List (List Char)) :
    List (List Char) → Except ReadError Entry
  | [] =>
    match entryAt? entries place with
    | some entry => .ok entry
    | none => .error .notFound
  | part :: more =>
    match entryAt? entries place with
    | some .directory => follow entries (move place part) more
    | some (.file _) | some .locked => .error .notDirectory
    | none => .error .notFound

/-- The directory that holds these entries; a path from the root starts above it. -/
def ofEntries (entries : List (String × Entry)) : Directory where
  find path :=
    if path.isEmpty then .error .notFound
    else follow entries (if path.toList.head? = some '/' then [parentPart] else []) (pathParts path)

end Directory

end LoxSyntax
