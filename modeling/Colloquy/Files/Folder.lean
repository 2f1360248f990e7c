import Colloquy.Files.Path
import Colloquy.Text.Utf8

/-!
# Folders

A folder holds files and folders, which hold files and folders in turn.  Beside
it, in the folder around, there can be files and folders as well.  A path leads
from the folder around, name by name, to a place.  What lies further outside is
not known, and nothing is found there.

A file is written where its folder is there already, and never in place of a
folder.  Only files are removed.
-/

namespace Colloquy.Files

/-- Why a file is not read. -/
inductive ReadFault where
  /-- There is no such file. -/
  | notFound
  /-- The path goes through a file as if it were a folder. -/
  | notFolder
  /-- The path leads to a folder. -/
  | isFolder
  /-- The file is not text. -/
  | notText
deriving Repr, DecidableEq, Inhabited

/-- The fault in words. -/
def ReadFault.text : ReadFault → String
  | .notFound => "No such file or directory (os error 2)"
  | .notFolder => "Not a directory (os error 20)"
  | .isFolder => "Is a directory (os error 21)"
  | .notText => "stream did not contain valid UTF-8"

/-- The names that lead to a file or folder from the folder around, the last one
first. -/
abbrev Location := List String

/-- A folder. -/
structure Folder (γ : Type u) where
  /-- The name of the folder. -/
  name : String
  /-- The files in it and beside it. -/
  files : List (Location × γ) := []
  /-- The folders in it and beside it. -/
  folders : List Location := []
deriving Repr, DecidableEq, Inhabited

/-- Where a path leads. -/
inductive Place (γ : Type u) where
  /-- Somewhere outside the folder around. -/
  | outside
  /-- A folder.  Without a name it is the folder around. -/
  | folder (location : Location)
  /-- A file. -/
  | file (content : γ)
deriving Repr, DecidableEq, Inhabited

namespace Folder

variable {γ : Type u}

/-- Whether there is a folder at a location. -/
def hasFolder (f : Folder γ) (location : Location) : Bool :=
  location == [] || location == [f.name] || f.folders.contains location

/-- The content of the file at a location. -/
def contentAt? (f : Folder γ) (location : Location) : Option γ := f.files.lookup location

/-- Without the file at a location. -/
def erase (f : Folder γ) (location : Location) : Folder γ :=
  { f with files := f.files.filter fun file => file.1 != location }

/-- With a file put at a location, in place of the one there. -/
def insert (f : Folder γ) (location : Location) (content : γ) : Folder γ :=
  { f with files := (location, content) :: (f.erase location).files }

/-! ## Paths -/

/-- What is at a location. -/
def placeAt (f : Folder γ) (location : Location) : Except ReadFault (Place γ) :=
  if f.hasFolder location then .ok (.folder location)
  else match f.contentAt? location with
    | some content => .ok (.file content)
    | none => .error .notFound

/-- One name further on a path. -/
def enter (f : Folder γ) (place : Place γ) (name : List Char) : Except ReadFault (Place γ) :=
  match place with
  | .file _ => .error .notFolder
  | .outside => if isHere name || isParent name then .ok .outside else .error .notFound
  | .folder location =>
      if isHere name then .ok (.folder location)
      else if isParent name then
        match location with
        | [] => .ok .outside
        | _ :: parent => .ok (.folder parent)
      else f.placeAt (String.ofList name :: location)

/-- Where a path starts: outside if a slash comes first. -/
def start (path : String) : Place γ :=
  if ['/'].isPrefixOf path.toList then .outside else .folder []

/-- Where a path leads. -/
def find (f : Folder γ) (path : String) : Except ReadFault (Place γ) :=
  (names path.toList).foldlM f.enter (start path)

/-- The location that a path has for a file.  All names before the last one have
to lead to a folder.  With a slash after it the last name is that of a
folder. -/
def locate (f : Folder γ) (path : String) : Except ReadFault Location :=
  let all := names path.toList
  let known := (all.reverse.dropWhile List.isEmpty).reverse
  match known.dropLast.foldlM f.enter (start path), known.getLast? with
  | .error fault, _ => .error fault
  | .ok (.file _), _ => .error .notFolder
  | .ok place, some name =>
      if known.length < all.length ∨ isHere name ∨ isParent name then .error .isFolder
      else match place with
        | .folder location => .ok (String.ofList name :: location)
        | _ => .error .notFound
  | .ok _, none => .error .notFound

/-! ## Reading and writing -/

/-- The content of the file at a path. -/
def read (f : Folder γ) (path : String) : Except ReadFault γ :=
  match f.find path with
  | .error fault => .error fault
  | .ok (.file content) => .ok content
  | .ok _ => .error .isFolder

/-- With a file written at a path, in place of the one there. -/
def write (f : Folder γ) (path : String) (content : γ) : Except ReadFault (Folder γ) :=
  match f.locate path with
  | .error fault => .error fault
  | .ok location =>
      if f.hasFolder location then .error .isFolder else .ok (f.insert location content)

/-- Without the file at a path. -/
def remove (f : Folder γ) (path : String) : Folder γ :=
  match f.locate path with
  | .error _ => f
  | .ok location => f.erase location

/-- One name further on a path, to a folder that is made if nothing is there. -/
def enterMaking (reached : Folder γ × Place γ) (name : List Char) :
    Except ReadFault (Folder γ × Place γ) :=
  let (f, place) := reached
  match f.enter place name, place with
  | .ok next, _ => .ok (f, next)
  | .error .notFound, .folder location =>
      let made := String.ofList name :: location
      .ok ({ f with folders := made :: f.folders }, .folder made)
  | .error fault, _ => .error fault

/-- With the folders on a path made where nothing is there. -/
def makeFolder (f : Folder γ) (path : String) : Except ReadFault (Folder γ) :=
  match (names path.toList).foldlM enterMaking (f, start path) with
  | .error fault => .error fault
  | .ok (_, .file _) => .error .notFolder
  | .ok (made, _) => .ok made

end Folder

/-- The text of the file at a path. -/
def Folder.readText (f : Folder (List UInt8)) (path : String) : Except ReadFault String :=
  match f.read path with
  | .error fault => .error fault
  | .ok bytes => (Text.decodeUtf8 bytes).mapError fun _ => .notText

end Colloquy.Files
