import Colloquy.Ron.Reading
import Colloquy.Ron.Written
import Colloquy.Settings.Basic

/-!
# Settings in RON

Settings are a record, and so are the layout, the colours and the gating rules
in it.  A field that is left out keeps its standard value.
-/

namespace Colloquy.Settings

open Colloquy.Ron Colloquy.Text

/-- A colour as a tuple of three numbers. -/
def readRgb : Reader Render.Rgb := do
  match ← tuple 3 float with
  | [r, g, b] => pure ⟨r, g, b⟩
  | _ => failure

/-- A colour with its opacity as a tuple of four numbers. -/
def readRgba : Reader Render.Rgba := do
  match ← tuple 4 float with
  | [r, g, b, a] => pure ⟨⟨r, g, b⟩, a⟩
  | _ => failure

/-- The fields of the layout. -/
def metricsFields : List (Wanted (Play.Metrics Float32)) :=
  [⟨"margin_left", fun _ m => do pure { m with marginLeft := ← float }⟩,
   ⟨"margin_right", fun _ m => do pure { m with marginRight := ← float }⟩,
   ⟨"start_y", fun _ m => do pure { m with startY := ← float }⟩,
   ⟨"line_height", fun _ m => do pure { m with lineHeight := ← float }⟩,
   ⟨"option_gap", fun _ m => do pure { m with choiceGap := ← float }⟩,
   ⟨"option_indent", fun _ m => do pure { m with choiceIndent := ← float }⟩]

/-- The fields of the colours. -/
def paletteFields : List (Wanted Palette) :=
  [⟨"clear", fun _ p => do pure { p with clear := ← readRgba }⟩,
   ⟨"body", fun _ p => do pure { p with body := ← readRgb }⟩,
   ⟨"selected", fun _ p => do pure { p with selected := ← readRgb }⟩,
   ⟨"option", fun _ p => do pure { p with choice := ← readRgb }⟩,
   ⟨"missing", fun _ p => do pure { p with missing := ← readRgb }⟩]

/-- The fields of the gating rules. -/
def gatingFields : List (Wanted Dialogue.Gating) :=
  [⟨"lock_marker", fun _ g => do pure { g with lockMarker := ← string }⟩,
   ⟨"end_sentinel", fun _ g => do pure { g with endWord := ← string }⟩,
   ⟨"unlock_trigger", fun _ g => do pure { g with keyState := ← string }⟩]

/-- The fields of settings. -/
def fields : List (Wanted (Settings Float32)) :=
  [⟨"scene", fun _ s => do pure { s with scene := ← string }⟩,
   ⟨"samples", fun _ s => do pure { s with samples := ← list string }⟩,
   ⟨"font", fun _ s => do pure { s with font := ← string }⟩,
   ⟨"font_pixel_size", fun _ s => do pure { s with pixels := ← unsigned 0xFFFFFFFF }⟩,
   ⟨"script", fun _ s => do pure { s with script := ← string }⟩,
   ⟨"validate_script", fun _ s => do pure { s with check := ← bool }⟩,
   ⟨"layout", fun scope s => do
      let (metrics, _) ← record "LayoutMetrics" metricsFields scope Play.Metrics.standard
      pure { s with metrics }⟩,
   ⟨"palette", fun scope s => do
      let (palette, _) ← record "Palette" paletteFields scope {}
      pure { s with palette }⟩,
   ⟨"gating", fun scope s => do
      let (gating, _) ← record "GatingRules" gatingFields scope {}
      pure { s with gating }⟩]

/-- The settings of a RON document. -/
def ofRon? (text : String) : Option (Settings Float32) :=
  (document (record "PlayModeConfig" fields · Settings.standard) text).map Prod.fst

/-- A colour in writing. -/
def ronRgb (c : Render.Rgb) : String := tupled [written c.red, written c.green, written c.blue]

/-- A colour with its opacity in writing. -/
def ronRgba (c : Render.Rgba) : String :=
  tupled [written c.rgb.red, written c.rgb.green, written c.rgb.blue, written c.alpha]

/-- Settings as a RON document. -/
def toRon (s : Settings Float32) : String :=
  recorded 0
    [("scene", quoted s.scene),
     ("samples", listed 1 (s.samples.map quoted)),
     ("font", quoted s.font),
     ("font_pixel_size", toString s.pixels),
     ("script", quoted s.script),
     ("validate_script", truth s.check),
     ("layout", recorded 1
       [("margin_left", written s.metrics.marginLeft),
        ("margin_right", written s.metrics.marginRight),
        ("start_y", written s.metrics.startY),
        ("line_height", written s.metrics.lineHeight),
        ("option_gap", written s.metrics.choiceGap),
        ("option_indent", written s.metrics.choiceIndent)]),
     ("palette", recorded 1
       [("clear", ronRgba s.palette.clear),
        ("body", ronRgb s.palette.body),
        ("selected", ronRgb s.palette.selected),
        ("option", ronRgb s.palette.choice),
        ("missing", ronRgb s.palette.missing)]),
     ("gating", recorded 1
       [("lock_marker", quoted s.gating.lockMarker),
        ("end_sentinel", quoted s.gating.endWord),
        ("unlock_trigger", quoted s.gating.keyState)])]

end Colloquy.Settings
