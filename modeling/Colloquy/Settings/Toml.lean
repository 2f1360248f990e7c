import Colloquy.Settings.Basic
import Colloquy.Toml.Reading
import Colloquy.Toml.Written

/-!
# Settings in TOML

Settings are a table, and so are the layout, the colours and the gating rules in
it.  A name that is left out keeps its standard value, and a name that means
nothing is passed over.  A list can stand for a table, its values going to the
names in their order.
-/

namespace Colloquy.Settings

open Colloquy.Toml

namespace OfToml

/-- A text. -/
def text? : Value → Option String
  | .text s => some s
  | _ => none

/-- A list of texts. -/
def texts? : Value → Option (List String)
  | .list items => items.mapM text?
  | _ => none

/-- A truth value. -/
def boolean? : Value → Option Bool
  | .boolean b => some b
  | _ => none

/-- A natural number of 32 bits. -/
def size? : Value → Option Nat
  | .integer n => if 0 ≤ n ∧ n ≤ 0xFFFFFFFF then some n.toNat else none
  | _ => none

/-- A number of 32 bits. -/
def number? : Value → Option Float32
  | .float x => some x.toFloat32
  | .integer n => some ((⟨n.natAbs, 0⟩ : Number.Decimal).toFloat32 (n < 0))
  | _ => none

/-- The first numbers of a list. -/
def numbers? (count : Nat) : Value → Option (List Float32)
  | .list items => if count ≤ items.length then (items.take count).mapM number? else none
  | _ => none

/-- A colour as a list of three numbers. -/
def rgb? (v : Value) : Option Render.Rgb :=
  match numbers? 3 v with
  | some [r, g, b] => some ⟨r, g, b⟩
  | _ => none

/-- A colour with its opacity as a list of four numbers. -/
def rgba? (v : Value) : Option Render.Rgba :=
  match numbers? 4 v with
  | some [r, g, b, a] => some ⟨⟨r, g, b⟩, a⟩
  | _ => none

/-- A name that is looked for, and how its value changes a state. -/
structure Wanted (σ : Type) where
  /-- The name. -/
  name : String
  /-- The state with the value in it. -/
  take : Value → σ → Option σ

/-- A state with the values of a list, the first for the first field. -/
def positional {σ : Type} (fields : List (Wanted σ)) (s : σ) (items : List Value) : Option σ :=
  (fields.zip items).foldlM (fun s (f, v) => f.take v s) s

/-- A state with the values that a table has for its fields.  A date has none. -/
def record {σ : Type} (fields : List (Wanted σ)) (s : σ) : Value → Option σ
  | .table _ es =>
      fields.foldlM (fun s f => match es.lookup f.name with
        | some v => f.take v s
        | none => some s) s
  | .list items => positional fields s items
  | .tables earlier last => positional fields s (earlier ++ [.table .header last])
  | .moment => some s
  | _ => none

/-- The fields of the layout. -/
def metricsFields : List (Wanted (Play.Metrics Float32)) :=
  [⟨"margin_left", fun v m => (number? v).map fun x => { m with marginLeft := x }⟩,
   ⟨"margin_right", fun v m => (number? v).map fun x => { m with marginRight := x }⟩,
   ⟨"start_y", fun v m => (number? v).map fun x => { m with startY := x }⟩,
   ⟨"line_height", fun v m => (number? v).map fun x => { m with lineHeight := x }⟩,
   ⟨"option_gap", fun v m => (number? v).map fun x => { m with choiceGap := x }⟩,
   ⟨"option_indent", fun v m => (number? v).map fun x => { m with choiceIndent := x }⟩]

/-- The fields of the colours. -/
def paletteFields : List (Wanted Palette) :=
  [⟨"clear", fun v p => (rgba? v).map fun c => { p with clear := c }⟩,
   ⟨"body", fun v p => (rgb? v).map fun c => { p with body := c }⟩,
   ⟨"selected", fun v p => (rgb? v).map fun c => { p with selected := c }⟩,
   ⟨"option", fun v p => (rgb? v).map fun c => { p with choice := c }⟩,
   ⟨"missing", fun v p => (rgb? v).map fun c => { p with missing := c }⟩]

/-- The fields of the gating rules. -/
def gatingFields : List (Wanted Dialogue.Gating) :=
  [⟨"lock_marker", fun v g => (text? v).map fun s => { g with lockMarker := s }⟩,
   ⟨"end_sentinel", fun v g => (text? v).map fun s => { g with endWord := s }⟩,
   ⟨"unlock_trigger", fun v g => (text? v).map fun s => { g with keyState := s }⟩]

/-- The fields of settings. -/
def fields : List (Wanted (Settings Float32)) :=
  [⟨"scene", fun v s => (text? v).map fun x => { s with scene := x }⟩,
   ⟨"samples", fun v s => (texts? v).map fun x => { s with samples := x }⟩,
   ⟨"font", fun v s => (text? v).map fun x => { s with font := x }⟩,
   ⟨"font_pixel_size", fun v s => (size? v).map fun x => { s with pixels := x }⟩,
   ⟨"script", fun v s => (text? v).map fun x => { s with script := x }⟩,
   ⟨"validate_script", fun v s => (boolean? v).map fun x => { s with check := x }⟩,
   ⟨"layout", fun v s =>
      (record metricsFields Play.Metrics.standard v).map fun x => { s with metrics := x }⟩,
   ⟨"palette", fun v s => (record paletteFields {} v).map fun x => { s with palette := x }⟩,
   ⟨"gating", fun v s => (record gatingFields {} v).map fun x => { s with gating := x }⟩]

end OfToml

/-- The settings of a TOML document. -/
def ofToml? (text : String) : Option (Settings Float32) := do
  let es ← document text
  OfToml.record OfToml.fields Settings.standard (.table .header es)

/-- A colour in writing. -/
def tomlRgb (c : Render.Rgb) : String := listed [written c.red, written c.green, written c.blue]

/-- A colour with its opacity in writing. -/
def tomlRgba (c : Render.Rgba) : String :=
  listed [written c.rgb.red, written c.rgb.green, written c.rgb.blue, written c.alpha]

/-- Settings as a TOML document. -/
def toToml (s : Settings Float32) : String :=
  String.join
    [defined "scene" (quoted s.scene),
     defined "samples" (listed (s.samples.map quoted)),
     defined "font" (quoted s.font),
     defined "font_pixel_size" (toString s.pixels),
     defined "script" (quoted s.script),
     defined "validate_script" (truth s.check),
     titled "layout"
       [defined "margin_left" (written s.metrics.marginLeft),
        defined "margin_right" (written s.metrics.marginRight),
        defined "start_y" (written s.metrics.startY),
        defined "line_height" (written s.metrics.lineHeight),
        defined "option_gap" (written s.metrics.choiceGap),
        defined "option_indent" (written s.metrics.choiceIndent)],
     titled "palette"
       [defined "clear" (tomlRgba s.palette.clear),
        defined "body" (tomlRgb s.palette.body),
        defined "selected" (tomlRgb s.palette.selected),
        defined "option" (tomlRgb s.palette.choice),
        defined "missing" (tomlRgb s.palette.missing)],
     titled "gating"
       [defined "lock_marker" (quoted s.gating.lockMarker),
        defined "end_sentinel" (quoted s.gating.endWord),
        defined "unlock_trigger" (quoted s.gating.keyState)]]

end Colloquy.Settings
