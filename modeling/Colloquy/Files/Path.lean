/-!
# Paths

A path is a list of names with slashes between them.  Empty names and `.` stand
for the folder reached so far.  The last name of a path is its file name.  The
extension of a file name is what follows its last dot, unless that dot is the
first character of the name.
-/

namespace Colloquy.Files

/-- The names of a path, between its slashes. -/
def names : List Char → List (List Char)
  | [] => [[]]
  | c :: cs =>
      if c = '/' then [] :: names cs
      else match names cs with
        | [] => [[c]]
        | n :: ns => (c :: n) :: ns

/-- Whether a name stands for the folder reached so far. -/
def isHere (name : List Char) : Bool := name == [] || name == ['.']

/-- Whether a name stands for the folder around the one reached so far. -/
def isParent (name : List Char) : Bool := name == ['.', '.']

/-- The file name of a path. -/
def fileName? (path : List Char) : Option (List Char) :=
  match ((names path).filter fun n => !isHere n).getLast? with
  | none => none
  | some name => if isParent name then none else some name

/-- What follows the last dot of a name, the name before it not being empty. -/
def extensionOfName? (name : List Char) : Option (List Char) :=
  let ending := name.reverse.takeWhile (· != '.')
  if ending.length + 1 < name.length then some ending.reverse else none

/-- The extension of a path. -/
def extension? (path : List Char) : Option (List Char) :=
  (fileName? path).bind extensionOfName?

/-- A path inside a folder.  A path that starts with a slash stays as it is. -/
def join (folder path : String) : String :=
  if ['/'].isPrefixOf path.toList then path else folder ++ "/" ++ path

end Colloquy.Files
