import Colloquy.Number.Shortest
import Colloquy.Render.Handle
import Colloquy.Script.Issue

/-!
# Notices

What the library has to say while it works, apart from its results.  Each kind
of notice has a level and a wording.  None of them changes a result.
-/

namespace Colloquy

/-- How much a notice matters. -/
inductive Level where
  /-- Something is wrong with the input and was passed over. -/
  | warn
  /-- A step a player would see. -/
  | info
  /-- A step a writer of scripts would look for. -/
  | debug
  /-- A step of no interest by itself. -/
  | trace
deriving Repr, DecidableEq, Inhabited

/-- The level in capitals. -/
def Level.text : Level → String
  | .warn => "WARN"
  | .info => "INFO"
  | .debug => "DEBUG"
  | .trace => "TRACE"

/-- Something worth saying. -/
inductive Notice where
  /-- A text block stands outside every state. -/
  | textOutsideState (line : Nat)
  /-- A choice stands outside every state. -/
  | choiceOutsideState (line : Nat)
  /-- A line is no directive. -/
  | unknownDirective (line : Nat)
  /-- A text block has no closing line. -/
  | unclosedText (line : Nat)
  /-- A state has no id. -/
  | unnamedState
  /-- A script has been read from a file. -/
  | scriptLoaded (path : String) (states : Nat) (start : String)
  /-- A check of a script has found something. -/
  | scriptIssue (issue : Script.Issue)
  /-- The dialogue has ended at a node without choices. -/
  | endedWithoutChoices (state : String)
  /-- The dialogue has ended through a choice. -/
  | ended (state : String)
  /-- A locked choice has been refused. -/
  | refused (label : String)
  /-- The state that unlocks choices has been reached. -/
  | unlocked (state : String)
  /-- A play mode is ready. -/
  | playReady (samples : Nat) (start : String)
  /-- A font has been loaded. -/
  | fontLoaded (pixels : Nat)
  /-- The textures of a glyph cache have been released. -/
  | glyphsReleased (count : Nat)
  /-- A glyph has been turned into a texture. -/
  | glyphRasterized (index width height : Nat)
  /-- A glyph lies outside the face. -/
  | glyphSkipped (index : Nat)
  /-- A resource to be released is not there. -/
  | unknownResource (kind : Render.Kind) (number : Nat)
  /-- The camera has taken another shape. -/
  | aspectChanged (old new : Float32)
  /-- A file of the data folder has been read. -/
  | assetRead (path : String) (size : Nat)

namespace Notice

/-- The level of a notice. -/
def level : Notice → Level
  | textOutsideState _ | choiceOutsideState _ | unclosedText _ | scriptIssue _ | glyphSkipped _
  | unknownResource _ _ => .warn
  | scriptLoaded _ _ _ | endedWithoutChoices _ | ended _ | unlocked _ | playReady _ _
  | fontLoaded _ => .info
  | unnamedState | refused _ | glyphsReleased _ | aspectChanged _ _ | assetRead _ _ => .debug
  | unknownDirective _ | glyphRasterized _ _ _ => .trace

/-- The wording of a notice. -/
def text : Notice → String
  | textOutsideState line => s!"Line {line}: text block outside of a state ignored"
  | choiceOutsideState line => s!"Line {line}: option outside of a state ignored"
  | unknownDirective line => s!"Line {line}: unrecognised directive ignored"
  | unclosedText line => s!"Text block opened at line {line} runs to end of file"
  | unnamedState => "Dropping state with an empty id"
  | scriptLoaded path states start =>
      s!"Loaded dialogue script {path}: {states} states, start '{start}'"
  | scriptIssue issue => "Dialogue script: " ++ issue.text
  | endedWithoutChoices state => s!"Dialogue finished at '{state}' (no options)"
  | ended state => s!"Dialogue finished at '{state}'"
  | refused label => s!"Option '{label}' is locked"
  | unlocked state => s!"Reached '{state}', locked options are now available"
  | playReady samples start => s!"Play mode ready: {samples} samples, starting at '{start}'"
  | fontLoaded pixels => s!"Loaded font at {pixels}px"
  | glyphsReleased count => s!"Released {count} glyph textures"
  | glyphRasterized index width height => s!"Rasterized glyph {index} ({width}x{height})"
  | glyphSkipped index => s!"Skipping glyph {index} outside the font face"
  | unknownResource kind number =>
      s!"Destroying unknown {kind.noun} {kind.handleNoun}({number})"
  | aspectChanged old new =>
      "Camera aspect ratio changed: " ++ Number.places 3 old ++ " -> " ++ Number.places 3 new
  | assetRead path size => s!"Read asset {path} ({size} bytes)"

/-- The level and the wording on one line. -/
def line (n : Notice) : String := n.level.text ++ " " ++ n.text

end Notice

end Colloquy
