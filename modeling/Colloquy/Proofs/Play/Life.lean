import Colloquy.Proofs.Play.Erasure

/-!
# Nothing is left behind

A *life* is an engine or a play mode from its start to its end: it is built over a
backend, anything is asked of it, and it ends.  It ends at once where it is not
built.  Whatever happens on the way, a life leaves no resource in the backend
(`Life.leaves_nothing`): it releases what it has made, each resource once, the
textures first and the program last, and never looks for one that is not there.

Nothing is assumed of fonts, scripts, assets and settings, and any request to the
backend may fail.
-/

namespace Colloquy.Play

open scoped List
open Colloquy.Render Colloquy.Typeset Logged

variable {B C α : Type}

/-- What is built over a backend, and what is asked of it before it ends. -/
inductive Life (α : Type) where
  /-- A text engine for a font at a size in pixels. -/
  | engine (font : Except Font.Fault (LoadedFont α)) (pixels : Nat) (calls : List (Call α))
  /-- A play mode opened from a library of assets. -/
  | mode (lib : Asset.Library) (load : Font.Data → Nat → Except Font.Fault (LoadedFont α))
      (settings : Settings α) (inputs : List (Input α))

namespace Life

section Run

variable [Zero α] [Add α] [Sub α] [Mul α] [Div α] [NatCast α] [IntCast α] [LE α] [DecidableLE α]

/-- The backend after a life. -/
def run [Backend B α] (b : B) : Life α → Logged B
  | engine font pixels calls => do
      match ← Engine.build b font pixels with
      | .error (_, b) => pure b
      | .ok e => do
          let e ← e.serveAll calls
          e.close
  | mode lib load settings inputs => do
      match ← Mode.ofAssets lib load b settings with
      | .error (_, b) => pure b
      | .ok m => do
          let m ← m.serveAll inputs
          m.close

/-- A life over an audited backend ends with the audit settled. -/
theorem quietly_run [Backend B α] [Accounts B] {b₀ : B} (hb : Accounts.Sound b₀) (life : Life α) :
    (life.run ({ inner := b₀ } : Audited B)).Quietly (Settled b₀) := by
  cases life with
  | engine font pixels calls =>
      refine (Engine.quietly_build hb font pixels).bind ?_
      intro answer hbuilt
      cases answer with
      | error p => exact quietly_pure hbuilt
      | ok e =>
          exact (Engine.Kept.quietly_serveAll calls hbuilt).bind fun _ he => he.quietly_close
  | mode lib load settings inputs =>
      refine (Mode.quietly_ofAssets hb lib load settings).bind ?_
      intro answer hopened
      cases answer with
      | error p => exact quietly_pure hopened
      | ok m =>
          exact (Mode.quietly_serveAll keeps_kept inputs hopened).bind
            fun _ hm => Engine.Kept.quietly_close hm

theorem run_map [Backend B α] [Backend C α] {f : B → C} (hf : Backend.Commutes f) (b : B)
    (life : Life α) : life.run (f b) = f <$> life.run b := by
  cases life with
  | engine font pixels calls =>
      simp only [run, Engine.build_map hf, bind_map_left, map_bind]
      refine bind_congr fun answer => ?_
      cases answer with
      | error p => rfl
      | ok e => simp [outcomeMap, Engine.serveAll_map hf, Engine.close_map hf]
  | mode lib load settings inputs =>
      simp only [run, Mode.ofAssets_map hf, bind_map_left, map_bind]
      refine bind_congr fun answer => ?_
      cases answer with
      | error p => rfl
      | ok m => simp [outcomeMap, Mode.serveAll_map (commutes_map hf), Mode.close_map hf]

/-- A life leaves nothing in a backend. -/
structure LeavesNothing [Backend B α] (live : B → Nat × Nat × Nat) (b : B) (life : Life α) :
    Prop where
  /-- As many programs, buffers and textures are there as before. -/
  live : live (life.run b).value = live b
  /-- No resource to be released was missing. -/
  quiet : (life.run b).Quiet
  /-- An audit changes nothing. -/
  audited : Audited.inner <$> life.run ({ inner := b } : Audited B) = life.run b
  /-- The audit says that every resource made was released once, the textures first
  and the program last. -/
  released_once : ∃ made released,
    (life.run ({ inner := b } : Audited B)).value.entries =
      made.map .made ++ released.map .released ∧
    made.Nodup ∧ released ~ made ∧ InTurn released

theorem leavesNothing_of_sound [Backend B α] [Accounts B] {b : B} (hb : Accounts.Sound b)
    {live : B → Nat × Nat × Nat}
    (hlive : ∀ {b b' : B}, Accounts.resources b ~ Accounts.resources b' → live b = live b')
    (life : Life α) : LeavesNothing live b life := by
  obtain ⟨hquiet, hsettled⟩ := quietly_run hb life
  have haudited := (run_map Audited.commutes_inner { inner := b } life).symm
  refine ⟨?_, ?_, haudited, hsettled.released_once⟩
  · rw [← haudited]
    exact hlive hsettled.resources
  · rw [← haudited]
    exact hquiet.map _

/-- Nothing a life makes is left in a headless backend, whatever state it is in,
and nothing is released twice.  The same holds where requests fail as planned. -/
theorem leaves_nothing (life : Life α) {b : Headless α} (hb : b.Reachable) :
    LeavesNothing Headless.live b life ∧
      ∀ c : Faulty (Headless α), c.inner = b → LeavesNothing (fun c => c.inner.live) c life := by
  refine ⟨leavesNothing_of_sound hb.sound Headless.live_eq_of_perm life, ?_⟩
  rintro c rfl
  exact leavesNothing_of_sound (B := Faulty (Headless α)) hb.sound Headless.live_eq_of_perm life

end Run

/-- A backend with a texture of someone else. -/
def shelf : Headless Float32 := (Headless.perform {} (.upload ⟨1, 1, [0]⟩)).value.2

/-- A font of two dots that shapes every text as four glyphs, one of them missing. -/
def dots : LoadedFont Float32 where
  shape _ := [⟨0, 0, 64, 0, 0, 0⟩, ⟨1, 1, 64, 0, 0, 0⟩, ⟨2, 2, 64, 0, 0, 0⟩, ⟨0, 3, 64, 0, 0, 0⟩]
  rasterizer := ⟨2, fun _ => ⟨⟨1, 1, [255]⟩, 0, 0, 1⟩⟩

/-- An engine that draws a text, is shut down and is asked for more. -/
def greeting : Life Float32 :=
  .engine (.ok dots) 16
    [.start 8 8, .text "Hello" 0 4 ⟨0, 0, 0⟩, .finish, .shutdown, .text "Again" 0 4 ⟨0, 0, 0⟩,
      .shutdown]

theorem leaves_nothing_greeting :
    shelf.Reachable ∧ LeavesNothing Headless.live shelf greeting ∧
    LeavesNothing (fun c => c.inner.live)
      ({ inner := shelf, plan := { quad := some 0 } } : Faulty (Headless Float32)) greeting ∧
    (greeting.run ({ inner := shelf } : Audited (Headless Float32))).value.entries =
      [.made ⟨.program, ⟨1, 1⟩⟩, .made ⟨.buffer, ⟨1, 1⟩⟩, .made ⟨.texture, ⟨1, 2⟩⟩,
        .made ⟨.texture, ⟨1, 3⟩⟩, .released ⟨.texture, ⟨1, 2⟩⟩, .released ⟨.texture, ⟨1, 3⟩⟩,
        .released ⟨.buffer, ⟨1, 1⟩⟩, .released ⟨.program, ⟨1, 1⟩⟩] := by
  have hb : shelf.Reachable := .perform _ .new
  obtain ⟨hheadless, hfaulty⟩ := leaves_nothing greeting hb
  exact ⟨hb, hheadless, hfaulty _ rfl, by decide +kernel⟩

end Life

end Colloquy.Play
