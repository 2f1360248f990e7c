import Colloquy.Settings.Fault
import Colloquy.Settings.Ron
import Colloquy.Settings.Toml

/-!
# Settings files

The extension of a file name tells the format of a settings file.  A file is
read before its name is looked at, so a missing file is missed under any name.
-/

namespace Colloquy.Settings

/-- The format of a settings file. -/
inductive Format where
  /-- Tables of names with values. -/
  | toml
  /-- Records in parentheses. -/
  | ron
deriving Repr, DecidableEq, Inhabited

namespace Format

/-- The format that the extension of a path tells. -/
def ofPath (path : String) : Except Fault Format :=
  match Files.extension? path.toList with
  | some ['t', 'o', 'm', 'l'] => .ok .toml
  | some ['r', 'o', 'n'] => .ok .ron
  | _ => .error (.unsupported path)

/-- The settings of a text. -/
def read? : Format → String → Option (Settings Float32)
  | toml => ofToml?
  | ron => ofRon?

/-- Settings as a text. -/
def write : Format → Settings Float32 → String
  | toml => toToml
  | ron => toRon

end Format

/-- The settings of the file at a path. -/
def load (folder : Files.Folder (List UInt8)) (path : String) :
    Except Fault (Settings Float32) :=
  match folder.readText path with
  | .error fault => .error (.unreadable fault)
  | .ok text => do
      let format ← Format.ofPath path
      match format.read? text with
      | some s => .ok s
      | none => .error .malformed

/-- The folder with settings written to the file at a path. -/
def save (folder : Files.Folder (List UInt8)) (path : String) (s : Settings Float32) :
    Except Fault (Files.Folder (List UInt8)) := do
  let format ← Format.ofPath path
  match folder.write path (Text.encodeUtf8 (format.write s)) with
  | .ok folder => .ok folder
  | .error fault => .error (.unreadable fault)

end Colloquy.Settings
