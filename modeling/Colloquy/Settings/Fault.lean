import Colloquy.Files.Folder

/-!
# Faults of settings files

Why a settings file is not read or written.
-/

namespace Colloquy.Settings

/-- Why a settings file is not read or written. -/
inductive Fault where
  /-- The file is not read or not written. -/
  | unreadable (fault : Files.ReadFault)
  /-- The file does not read as settings. -/
  | malformed
  /-- The ending of the file name is not that of a known format. -/
  | unsupported (path : String)
deriving Repr, DecidableEq, Inhabited

/-- The fault in words. -/
def Fault.message : Fault → String
  | unreadable fault => "IO error: " ++ fault.text
  | malformed => "Parse error: malformed settings"
  | unsupported path => "Unsupported config format: " ++ path

end Colloquy.Settings
