import Colloquy.Files.Folder
import Colloquy.Script.Reader

/-!
# Scripts in files

A script is read from a file as text.  Loading it anew empties the graph first,
so a script that cannot be loaded leaves an empty graph.
-/

namespace Colloquy.Script

open Colloquy.Files

/-- Why a script is not loaded. -/
inductive LoadFault where
  /-- The file is not read. -/
  | unreadable (path : String) (fault : ReadFault)
  /-- The script is refused. -/
  | malformed (fault : Fault)
deriving Repr, DecidableEq, Inhabited

/-- The fault in words. -/
def LoadFault.message : LoadFault → String
  | unreadable path fault => s!"Failed to open {path}: " ++ fault.text
  | malformed fault => fault.message

/-- The graph of the script at a path, given the text of the file there. -/
def load (path : String) (text : Except ReadFault String) : Logged (Except LoadFault Graph) :=
  match text with
  | .error fault => pure (.error (.unreadable path fault))
  | .ok source => do
      match ← read source with
      | .error fault => pure (.error (.malformed fault))
      | .ok graph => do
          Logged.say (.scriptLoaded path graph.size graph.start)
          pure (.ok graph)

/-- A graph loaded anew, with the fault if there is one. -/
def reload (path : String) (text : Except ReadFault String) :
    Logged (Except LoadFault Unit × Graph) := do
  match ← load path text with
  | .error fault => pure (.error fault, {})
  | .ok graph => pure (.ok (), graph)

end Colloquy.Script
