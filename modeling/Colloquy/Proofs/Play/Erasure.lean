import Colloquy.Proofs.Play.Custody
import Colloquy.Proofs.Typeset.Erasure

/-!
# Play modes over related surfaces

A play mode knows its surface by how it shapes text and by what drawing answers.
So a map of surfaces that changes neither (`Surface.Commutes`) commutes with
everything a play mode does.  A map of backends that changes no answer gives such
a map of engines, and commutes with opening a play mode as well.
-/

namespace Colloquy.Play

open Colloquy.Render Colloquy.Typeset

variable {S T α : Type} {g : S → T}

/-- A map of surfaces that changes no answer, no notice and no shape. -/
structure Surface.Commutes [Surface S α] [Surface T α] (g : S → T) : Prop where
  shaper : ∀ s, Surface.shaper (g s) = Surface.shaper s
  clear : ∀ s color, Surface.clear (g s) color = g <$> Surface.clear s color
  start : ∀ s width height,
    Surface.start (g s) width height = Prod.map id g <$> Surface.start s width height
  drawText : ∀ s text x baseline color, Surface.drawText (g s) text x baseline color =
    Prod.map id g <$> Surface.drawText s text x baseline color
  finish : ∀ s, Surface.finish (g s) = g <$> Surface.finish s

/-- A play mode over another surface. -/
def Mode.map (g : S → T) (m : Mode S α) : Mode T α :=
  { settings := m.settings, surface := g m.surface, dialogue := m.dialogue, cursor := m.cursor,
    scene := m.scene, samples := m.samples, holdsPointer := m.holdsPointer }

namespace Mode

section Draw

variable [Surface S α] [Surface T α]

theorem drawLines_map (hg : Surface.Commutes g) (lines : List (Line α × Rgb)) :
    ∀ s : S, drawLines (g s) lines = Prod.map id g <$> drawLines s lines := by
  induction lines with
  | nil => exact fun s => rfl
  | cons line lines ih =>
      intro s
      simp only [drawLines, hg.drawText, bind_map_left, map_bind]
      refine bind_congr ?_
      rintro ⟨answer, s'⟩
      cases answer with
      | error fault => rfl
      | ok => exact ih s'

theorem drawFrame_map (hg : Surface.Commutes g) (s : S) (clear : Rgba) (width height : Nat)
    (lines : T → List (Line α × Rgb)) :
    drawFrame (g s) clear width height lines =
      Prod.map id g <$> drawFrame s clear width height fun s' => lines (g s') := by
  simp only [drawFrame, hg.clear, hg.start, bind_map_left, map_bind]
  refine bind_congr fun s₁ => bind_congr ?_
  rintro ⟨answer, s₂⟩
  cases answer with
  | error fault => rfl
  | ok => simp [drawLines_map hg, hg.finish]

variable [Zero α] [Add α] [Sub α] [Mul α] [Div α] [NatCast α] [LE α] [DecidableLE α]

theorem layout?_map (hg : Surface.Commutes g) (m : Mode S α) (viewport : Nat) :
    (m.map g).layout? viewport = m.layout? viewport := by
  rw [layout?, layout?, map, hg.shaper]

theorem choiceAt?_map (hg : Surface.Commutes g) (m : Mode S α) (y : α) (viewport : Nat) :
    (m.map g).choiceAt? y viewport = m.choiceAt? y viewport := by
  rw [choiceAt?, choiceAt?, layout?_map hg]

theorem frame_map (hg : Surface.Commutes g) (m : Mode S α) (viewport : Nat) :
    (m.map g).frame viewport = m.frame viewport := by
  rw [frame, frame, layout?_map hg]
  rfl

theorem frameOn_map (hg : Surface.Commutes g) (m : Mode S α) (viewport : Nat) (s : S) :
    (m.map g).frameOn viewport (g s) = m.frameOn viewport s :=
  frame_map hg { m with surface := s } viewport

theorem handle_map (hg : Surface.Commutes g) (m : Mode S α) (viewport : Nat) (event : Event α) :
    (m.map g).handle viewport event = Prod.map id (map g) <$> m.handle viewport event := by
  cases event with
  | key key =>
      cases key with
      | escape => rfl
      | enter =>
          simp only [handle, map_bind, map_pure]
          rfl
      | up => rfl
      | down => rfl
  | press button x y =>
      cases button with
      | left =>
          simp only [handle, choiceAt?_map hg]
          cases m.choiceAt? y viewport with
          | none => rfl
          | some index =>
              simp only [map_bind, map_pure]
              rfl
      | right => rfl
      | middle => rfl
  | motion x y =>
      simp only [handle, choiceAt?_map hg]
      cases m.choiceAt? y viewport with
      | none => rfl
      | some index => rfl

theorem draw_map (hg : Surface.Commutes g) (m : Mode S α) (width height : Nat) :
    (m.map g).draw width height = Prod.map id (map g) <$> m.draw width height := by
  have hlines : (fun s => (m.map g).frameOn width (g s)) = m.frameOn width :=
    funext (frameOn_map hg m width)
  have hframe := drawFrame_map hg m.surface m.settings.palette.clear width height
    ((m.map g).frameOn width)
  rw [hlines] at hframe
  simp only [draw, map_bind, map_pure]
  refine bind_congr fun scene => ?_
  simp only [map] at hframe ⊢
  simp only [hframe, bind_map_left]
  rfl

theorem serve_map (hg : Surface.Commutes g) (m : Mode S α) (input : Input α) :
    (m.map g).serve input = map g <$> m.serve input := by
  cases input with
  | event viewport event => simp [serve, handle_map hg]
  | frame width height => simp [serve, draw_map hg]

theorem serveAll_map (hg : Surface.Commutes g) (inputs : List (Input α)) : ∀ m : Mode S α,
    (m.map g).serveAll inputs = map g <$> m.serveAll inputs := by
  induction inputs with
  | nil => exact fun m => rfl
  | cons input inputs ih =>
      intro m
      simp only [serveAll, List.foldlM_cons, serve_map hg, bind_map_left, map_bind] at ih ⊢
      exact bind_congr fun m' => ih m'

end Draw

end Mode

/-! ## Play modes over backends -/

variable {B C : Type} [Backend B α] [Backend C α] {f : B → C}

theorem commutes_map [Add α] [Sub α] [Div α] [NatCast α] [IntCast α] (hf : Backend.Commutes f) :
    Surface.Commutes (Engine.map f : Engine B α → Engine C α) where
  shaper _ := rfl
  clear e color := e.clear_map hf color
  start e width height := e.start_map hf width height
  drawText e text x baseline color := e.drawText_map hf text x baseline color
  finish e := e.finish_map hf

namespace Mode

theorem abandon_map (hf : Backend.Commutes f) (e : Engine B α) (fault : Fault) :
    abandon (e.map f) fault = outcomeMap f (map (Engine.map f)) <$> abandon e fault := by
  simp [abandon, e.close_map hf, outcomeMap]

theorem ofParts_map (g : S → T) (settings : Settings α) (surface : S) (graph : Script.Graph)
    (scene : Asset.Scene) (samples : List Asset.Sample) :
    ofParts settings (g surface) graph scene samples =
      Except.map (map g) <$> ofParts settings surface graph scene samples := by
  rw [ofParts, ofParts]
  split
  · rfl
  · split
    · simp only [map_bind, map_pure]
      rfl
    · simp only [map_bind, map_pure]
      rfl

theorem openScript_map (hf : Backend.Commutes f) (lib : Asset.Library) (settings : Settings α)
    (scene : Asset.Scene) (samples : List Asset.Sample) (e : Engine B α) :
    openScript lib settings scene samples (e.map f) =
      outcomeMap f (map (Engine.map f)) <$> openScript lib settings scene samples e := by
  simp only [openScript, map_bind]
  refine bind_congr fun answer => ?_
  cases answer with
  | error fault => exact abandon_map hf e _
  | ok graph =>
      simp only [ofParts_map, bind_map_left, map_bind]
      refine bind_congr fun answer => ?_
      cases answer with
      | error fault => exact abandon_map hf e _
      | ok mode => rfl

theorem ofAssets_map (hf : Backend.Commutes f) (lib : Asset.Library)
    (load : Font.Data → Nat → Except Font.Fault (LoadedFont α)) (b : B) (settings : Settings α) :
    ofAssets lib load (f b) settings =
      outcomeMap f (map (Engine.map f)) <$> ofAssets lib load b settings := by
  simp only [ofAssets, map_bind]
  refine bind_congr fun answer => ?_
  cases answer with
  | error fault => rfl
  | ok scene =>
      simp only [map_bind]
      refine bind_congr fun answer => ?_
      cases answer with
      | error fault => rfl
      | ok samples =>
          simp only [map_bind]
          refine bind_congr fun answer => ?_
          cases answer with
          | error fault => rfl
          | ok data =>
              simp only [Engine.build_map hf, bind_map_left, map_bind]
              refine bind_congr fun answer => ?_
              cases answer with
              | error p => rfl
              | ok e => exact openScript_map hf lib settings scene samples e

theorem close_map (hf : Backend.Commutes f) (m : Mode (Engine B α) α) :
    (m.map (Engine.map f)).close = f <$> m.close := m.surface.close_map hf

end Mode

end Colloquy.Play
