import Colloquy.Asset.Camera
import Colloquy.Asset.Sample
import Colloquy.Font.Face
import Colloquy.Ron.Reading

/-!
# The asset library

Assets are files of one folder: scenes, sound samples and fonts.  A scene is a
RON document that lists its cameras, and each camera gives all of its fields.

A file of the folder is bytes or a font.  Where the bytes of a font are asked
for, the start of its table directory stands for them.  It is not text.
-/

namespace Colloquy.Asset

open Colloquy.Ron Colloquy.Text

/-! ## Scenes -/

/-- A vector as a tuple of three numbers. -/
def readVec3 : Reader Vec3 := do
  match ← items '(' ')' float with
  | [x, y, z] => pure ⟨x, y, z⟩
  | _ => failure

/-- The fields of a camera. -/
def cameraFields : List (Wanted Camera) :=
  [⟨"position", fun _ c => do pure { c with position := ← readVec3 }⟩,
   ⟨"target", fun _ c => do pure { c with target := ← readVec3 }⟩,
   ⟨"up", fun _ c => do pure { c with up := ← readVec3 }⟩,
   ⟨"fov", fun _ c => do pure { c with fov := ← float }⟩,
   ⟨"aspect", fun _ c => do pure { c with aspect := ← float }⟩,
   ⟨"near", fun _ c => do pure { c with near := ← float }⟩,
   ⟨"far", fun _ c => do pure { c with far := ← float }⟩]

/-- The fields of a scene. -/
def sceneFields : List (Wanted Scene) :=
  [⟨"cameras", fun scope s => do
      let inner ← Reader.require scope.inner?
      pure { s with cameras := ← list (fullRecord "Camera" cameraFields inner default) }⟩]

/-- The scene of a document. -/
def Scene.read? (text : String) : Option Scene :=
  document (fullRecord "Scene" sceneFields · {}) text

/-! ## The library -/

/-- The folder of the assets. -/
abbrev Library := Files.Folder Font.Data

/-- The bytes of a file.  A font starts with its version, its count of tables and
sixteen times the greatest power of two in that count. -/
def dataBytes : Font.Data → List UInt8
  | .bytes bs => bs
  | .face _ => [0x00, 0x01, 0x00, 0x00, 0x00, 0x08, 0x00, 0x80]

namespace Library

/-- The path of an asset. -/
def path (lib : Library) (name : String) : String := Files.join lib.name name

/-- The data of an asset. -/
def read (lib : Library) (name : String) : Logged (Except Fault Font.Data) :=
  match Files.Folder.find lib (lib.path name) with
  | .ok (.file data) => do
      Logged.say (.assetRead (lib.path name) (dataBytes data).length)
      pure (.ok data)
  | _ => pure (.error (.notFound (lib.path name)))

/-- The scene of an asset. -/
def scene (lib : Library) (name : String) : Logged (Except Fault Scene) := do
  match ← lib.read name with
  | .error fault => pure (.error fault)
  | .ok data =>
      match decodeUtf8 (dataBytes data) with
      | .error fault => pure (.error (.invalid (.sceneNotText name fault)))
      | .ok text =>
          match Scene.read? text with
          | none => pure (.error (.invalid (.sceneMalformed name)))
          | some scene => pure (.ok scene)

/-- The sound sample of an asset. -/
def sample (lib : Library) (name : String) : Logged (Except Fault Sample) := do
  match ← lib.read name with
  | .error fault => pure (.error fault)
  | .ok data => pure (Sample.ofBytes (dataBytes data))

/-- The sound samples of assets, up to the first that fails. -/
def samples (lib : Library) : List String → Logged (Except Fault (List Sample))
  | [] => pure (.ok [])
  | name :: rest => do
      match ← lib.sample name with
      | .error fault => pure (.error fault)
      | .ok first => do
          let others ← lib.samples rest
          pure (others.map (first :: ·))

/-- The text of a file in the folder. -/
def readText (lib : Library) (path : String) : Except Files.ReadFault String :=
  match Files.Folder.read lib path with
  | .error fault => .error fault
  | .ok data => (decodeUtf8 (dataBytes data)).mapError fun _ => .notText

end Library

end Colloquy.Asset
