import Colloquy.Files.Folder

/-!
# Faults of assets

Why an asset cannot be used.
-/

namespace Colloquy.Asset

/-- What is wrong with the data of an asset. -/
inductive InvalidCause where
  /-- A sound sample is empty. -/
  | emptySample
  /-- A sound sample is in no known format. -/
  | unknownFormat
  /-- A scene is not text. -/
  | sceneNotText (name : String) (fault : Text.Utf8Fault)
  /-- A scene does not read as a scene. -/
  | sceneMalformed (name : String)
deriving Repr, DecidableEq, Inhabited

/-- What is wrong, in words. -/
def InvalidCause.text : InvalidCause → String
  | emptySample => "Empty audio file"
  | unknownFormat => "Unrecognised audio format"
  | sceneNotText name fault => name ++ ": " ++ fault.text
  | sceneMalformed name => name ++ ": malformed scene"

/-- Why an asset cannot be used. -/
inductive Fault where
  /-- There is no such file. -/
  | notFound (path : String)
  /-- The data is not what it has to be. -/
  | invalid (cause : InvalidCause)
  /-- A scene has no camera or several. -/
  | cameraCount (count : Nat)
  /-- The file is not read. -/
  | unreadable (fault : Files.ReadFault)
deriving Repr, DecidableEq, Inhabited

/-- The fault in words. -/
def Fault.message : Fault → String
  | notFound path => "Asset not found: " ++ path
  | invalid cause => "Invalid data: " ++ cause.text
  | cameraCount count =>
      s!"Expecting scene to have exactly one camera, but it has {count}"
  | unreadable fault => "IO error: " ++ fault.text

end Colloquy.Asset
