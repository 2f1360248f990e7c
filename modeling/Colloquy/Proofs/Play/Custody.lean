import Colloquy.Proofs.Play.Events
import Colloquy.Proofs.Typeset.Custody

/-!
# What a play mode holds

A play mode holds resources through its surface alone.  Events leave the surface
as it is, and a frame only asks it to fill itself, to start a pass, to draw lines
and to end the pass.  So whatever these four keep, a play mode keeps
(`Mode.quietly_serve`), and for a text engine that is its custody.

A play mode that opens has a kept engine for its surface.  One that does not open
leaves the backend settled, whichever step failed.
-/

namespace Colloquy.Play

open Colloquy.Render Colloquy.Typeset Logged

variable {S α : Type}

/-! ## Inputs -/

/-- What a play mode is told. -/
inductive Input (α : Type) where
  /-- An event in a window of a width. -/
  | event (viewport : Nat) (event : Event α)
  /-- A frame is to be drawn on a drawable of a width and a height. -/
  | frame (width height : Nat)
deriving Repr, DecidableEq

namespace Mode

section Serve

variable [Surface S α] [Zero α] [Add α] [Sub α] [Mul α] [Div α] [NatCast α] [LE α] [DecidableLE α]

/-- The mode after an input, whether drawing fails or not. -/
def serve (m : Mode S α) : Input α → Logged (Mode S α)
  | .event viewport event => Prod.snd <$> m.handle viewport event
  | .frame width height => Prod.snd <$> m.draw width height

/-- The mode after inputs. -/
def serveAll (m : Mode S α) (inputs : List (Input α)) : Logged (Mode S α) := inputs.foldlM serve m

end Serve

end Mode

/-! ## What a surface keeps -/

/-- Something that stays true of a surface, whatever is drawn on it and whether
that fails or not. -/
structure Surface.Keeps [Surface S α] (P : S → Prop) : Prop where
  clear : ∀ {s : S}, P s → ∀ color, (Surface.clear s color).Quietly P
  start : ∀ {s : S}, P s → ∀ width height,
    (Surface.start s width height).Quietly fun p => P p.2
  drawText : ∀ {s : S}, P s → ∀ text x baseline color,
    (Surface.drawText s text x baseline color).Quietly fun p => P p.2
  finish : ∀ {s : S}, P s → (Surface.finish s).Quietly P

namespace Mode

section Keeps

variable [Surface S α] {P : S → Prop}

theorem quietly_drawLines (hP : Surface.Keeps P) (lines : List (Line α × Rgb)) :
    ∀ {s : S}, P s → (drawLines s lines).Quietly fun p => P p.2 := by
  induction lines with
  | nil => exact fun hs => quietly_pure hs
  | cons line lines ih =>
      intro s hs
      rw [drawLines]
      refine (hP.drawText hs _ _ _ _).bind ?_
      rintro ⟨answer, s'⟩ hs'
      cases answer with
      | error fault => exact quietly_pure hs'
      | ok => exact ih hs'

theorem quietly_drawFrame (hP : Surface.Keeps P) {s : S} (hs : P s) (clear : Rgba)
    (width height : Nat) (lines : S → List (Line α × Rgb)) :
    (drawFrame s clear width height lines).Quietly fun p => P p.2 := by
  refine (hP.clear hs clear).bind fun s₁ h₁ => (hP.start h₁ width height).bind ?_
  rintro ⟨answer, s₂⟩ h₂
  cases answer with
  | error fault => exact quietly_pure h₂
  | ok =>
      exact (quietly_drawLines hP (lines s₂) h₂).bind fun p hp =>
        (hP.finish hp).bind fun s' hs' => quietly_pure hs'

variable [Zero α] [Add α] [Sub α] [Mul α] [Div α] [NatCast α] [LE α] [DecidableLE α]

theorem quietly_handle {m : Mode S α} (hm : P m.surface) (viewport : Nat) (event : Event α) :
    (m.handle viewport event).Quietly fun p => P p.2.surface := by
  refine ⟨m.quiet_handle viewport event, ?_⟩
  obtain ⟨holds, hhandle⟩ := m.exists_handle_eq viewport event
  rwa [hhandle]

theorem quietly_draw (hP : Surface.Keeps P) {m : Mode S α} (hm : P m.surface)
    (width height : Nat) : (m.draw width height).Quietly fun p => P p.2.surface :=
  (quiet_fitScene m.scene width height).quietly.bind fun _ _ =>
    (quietly_drawFrame hP hm _ width height _).bind fun _ hp => quietly_pure hp

/-- A play mode keeps what its surface keeps. -/
theorem quietly_serve (hP : Surface.Keeps P) {m : Mode S α} (hm : P m.surface)
    (input : Input α) : (m.serve input).Quietly fun m' => P m'.surface := by
  cases input with
  | event viewport event => exact (quietly_handle hm viewport event).map
  | frame width height => exact (quietly_draw hP hm width height).map

theorem quietly_serveAll (hP : Surface.Keeps P) (inputs : List (Input α)) :
    ∀ {m : Mode S α}, P m.surface → (m.serveAll inputs).Quietly fun m' => P m'.surface := by
  induction inputs with
  | nil => exact fun hm => quietly_pure hm
  | cons input inputs ih =>
      intro m hm
      rw [serveAll, List.foldlM_cons]
      exact (quietly_serve hP hm input).bind fun _ hm' => ih hm'

end Keeps

end Mode

/-! ## Play modes over audited backends -/

variable {B : Type} [Backend B α] [Accounts B] {b₀ : B}

theorem keeps_kept [Add α] [Sub α] [Div α] [NatCast α] [IntCast α] :
    Surface.Keeps (S := Engine (Audited B) α) (Engine.Kept b₀) where
  clear h color := h.quietly_clear color
  start h width height := h.quietly_start width height
  drawText h text x baseline color := h.quietly_drawText text x baseline color
  finish h := h.quietly_finish

namespace Mode

theorem quietly_abandon {e : Engine (Audited B) α} (h : e.Kept b₀) (fault : Fault) :
    (abandon e fault).Quietly (Leaves b₀ fun m => m.surface.Kept b₀) :=
  h.quietly_close.bind fun _ hb => quietly_pure hb

/-- A play mode draws on the surface it was made of. -/
theorem quietly_ofParts (settings : Settings α) (surface : S) (graph : Script.Graph)
    (scene : Asset.Scene) (samples : List Asset.Sample) :
    (ofParts settings surface graph scene samples).Quietly fun answer =>
      ∀ mode, answer = .ok mode → mode.surface = surface := by
  refine ⟨quiet_ofParts settings surface graph scene samples, fun mode h => ?_⟩
  rw [eq_of_ofParts h]

theorem quietly_openScript (lib : Asset.Library) (settings : Settings α) (scene : Asset.Scene)
    (samples : List Asset.Sample) {e : Engine (Audited B) α} (h : e.Kept b₀) :
    (openScript lib settings scene samples e).Quietly (Leaves b₀ fun m => m.surface.Kept b₀) := by
  refine (Script.quiet_load _ _).quietly.bind ?_
  rintro answer -
  cases answer with
  | error fault => exact quietly_abandon h _
  | ok graph =>
      refine (quietly_ofParts settings e graph scene samples).bind ?_
      intro answer hsurface
      cases answer with
      | error fault => exact quietly_abandon h _
      | ok mode =>
          have hkept : mode.surface.Kept b₀ := by rwa [hsurface mode rfl]
          exact quietly_pure hkept

/-- A play mode over a backend whose audit starts has a kept engine.  Where it does
not open, everything is given back. -/
theorem quietly_ofAssets (hb : Accounts.Sound b₀) (lib : Asset.Library)
    (load : Font.Data → Nat → Except Font.Fault (LoadedFont α)) (settings : Settings α) :
    (ofAssets lib load ({ inner := b₀ } : Audited B) settings).Quietly
      (Leaves b₀ fun m => m.surface.Kept b₀) := by
  have hstart : Settled b₀ ({ inner := b₀ } : Audited B) := (Custody.start hb).settled .nil
  refine (lib.quiet_scene settings.scene).quietly.bind ?_
  rintro answer -
  cases answer with
  | error fault => exact quietly_pure hstart
  | ok scene =>
      refine (lib.quiet_samples settings.samples).quietly.bind ?_
      rintro answer -
      cases answer with
      | error fault => exact quietly_pure hstart
      | ok samples =>
          refine (lib.quiet_read settings.font).quietly.bind ?_
          rintro answer -
          cases answer with
          | error fault => exact quietly_pure hstart
          | ok data =>
              refine (Engine.quietly_build hb _ settings.pixels).bind ?_
              intro answer hbuilt
              cases answer with
              | error p => exact quietly_pure hbuilt
              | ok e => exact quietly_openScript lib settings scene samples hbuilt

end Mode

end Colloquy.Play
