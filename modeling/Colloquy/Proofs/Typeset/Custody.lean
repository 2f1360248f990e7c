import Colloquy.Proofs.Render.Audit
import Colloquy.Typeset.Engine

/-!
# What an engine holds

An engine holds the textures of its glyphs, its buffer and its program, and it
holds everything it has made: a resource that is made goes into the engine or
its cache at once.  Shutting down releases what the engine holds, in this order.

An engine is *kept* when it holds what has been made and not released, and has
released either nothing or everything (`Engine.Kept`).  Building an engine gives
one that is kept, or leaves the backend settled, and so does the end of one that
is kept.  Each call keeps it (`Engine.quietly_serve`).  Only a text that is drawn
can make a resource, and an engine that has released everything draws none.
-/

namespace Colloquy.Typeset

open scoped List
open Colloquy.Render Logged

/-! ## Calls -/

/-- What can be asked of an engine. -/
inductive Call (α : Type) where
  /-- Fill the screen. -/
  | clear (color : Rgba)
  /-- Start a pass. -/
  | start (width height : Nat)
  /-- Draw a text. -/
  | text (text : String) (x baseline : α) (color : Rgb)
  /-- End the pass. -/
  | finish
  /-- Give everything back. -/
  | shutdown
deriving Repr, DecidableEq

variable {B α : Type}

namespace Engine

section Serve

variable [Backend B α] [Add α] [Sub α] [Div α] [NatCast α] [IntCast α]

/-- The engine after a call, whether the call fails or not. -/
def serve (e : Engine B α) : Call α → Logged (Engine B α)
  | .clear color => e.clear color
  | .start width height => Prod.snd <$> e.start width height
  | .text text x baseline color => Prod.snd <$> e.drawText text x baseline color
  | .finish => e.finish
  | .shutdown => e.shutdown

/-- The engine after calls. -/
def serveAll (e : Engine B α) (calls : List (Call α)) : Logged (Engine B α) := calls.foldlM serve e

end Serve

end Engine

/-! ## Resources held -/

/-- The textures of cached glyphs. -/
def texturesOf (entries : List (Nat × GlyphTexture α)) : List Resource :=
  entries.map fun entry => ⟨.texture, entry.2.texture⟩

/-- The resource of a handle, if there is one. -/
def resourceOf {kind : Kind} (h : Option (Handle kind)) : List Resource :=
  (h.map (Resource.mk kind)).toList

@[simp] theorem resourceOf_none {kind : Kind} : resourceOf (none : Option (Handle kind)) = [] := rfl
@[simp] theorem resourceOf_some {kind : Kind} (h : Handle kind) :
    resourceOf (some h) = [⟨kind, h⟩] := rfl

namespace Engine

/-- The textures that an engine holds. -/
def textures (e : Engine B α) : List Resource :=
  e.font.elim [] fun font => texturesOf font.cache.entries

/-- The resources that an engine holds, in the order they are released. -/
def held (e : Engine B α) : List Resource :=
  e.textures ++ (resourceOf e.buffer ++ resourceOf e.program)

theorem kind_of_mem_textures {e : Engine B α} {x : Resource} (h : x ∈ e.textures) :
    x.kind = .texture := by
  rw [textures] at h
  cases hf : e.font with
  | none => simp [hf] at h
  | some font =>
      simp only [hf, Option.elim_some, texturesOf, List.mem_map] at h
      obtain ⟨entry, -, rfl⟩ := h
      rfl

/-- What an engine holds is in the order in which it is to be released. -/
theorem inTurn_held (e : Engine B α) : InTurn e.held := by
  have htextures : ∀ x ∈ e.textures, x.kind.turn = 0 := fun x hx => by
    rw [kind_of_mem_textures hx, Kind.turn]
  have hothers : InTurn (resourceOf e.buffer ++ resourceOf e.program) := by
    cases e.buffer with
    | none => cases e.program <;> simp [InTurn]
    | some h => cases e.program <;> simp [InTurn, Kind.turn]
  refine List.pairwise_append.2 ⟨?_, hothers, ?_⟩
  · exact List.pairwise_of_forall_mem_list fun x hx y hy => by
      rw [htextures x hx]
      exact Nat.zero_le _
  · intro x hx y hy
    rw [htextures x hx]
    exact Nat.zero_le _

end Engine

variable [Backend B α] [Accounts B] {b₀ : B} {b : Audited B}
  {made released held rest : List Resource}

/-! ## The end of an engine -/

theorem quietly_dropTextures (entries : List (Nat × GlyphTexture α)) :
    ∀ {b : Audited B} {released : List Resource},
      Custody b₀ b made released (texturesOf entries ++ rest) →
      (GlyphCache.dropTextures b entries).Quietly fun b' =>
        Custody b₀ b' made (released ++ texturesOf entries) rest := by
  induction entries with
  | nil =>
      intro b released h
      exact quietly_pure (by simpa [texturesOf] using h)
  | cons entry entries ih =>
      intro b released h
      refine (Custody.release (r := .dropTexture entry.2.texture) h rfl fun _ => rfl).bind
        fun p hp => (ih hp).imp fun b' hb' => ?_
      simpa [texturesOf] using hb'

namespace Engine

variable {e : Engine (Audited B) α}

theorem quietly_dropFont (h : Custody b₀ e.backend made released (e.textures ++ rest)) :
    e.dropFont.Quietly fun e' => Custody b₀ e'.backend made (released ++ e.textures) rest ∧
      e'.font = none ∧ e'.buffer = e.buffer ∧ e'.program = e.program := by
  rw [textures] at h ⊢
  rw [dropFont]
  cases hf : e.font with
  | none =>
      rw [hf] at h
      exact quietly_pure ⟨by simpa using h, hf, rfl, rfl⟩
  | some font =>
      rw [hf] at h
      have hrelease : (font.cache.release e.backend).Quietly fun p =>
          Custody b₀ p.2.2 made (released ++ texturesOf font.cache.entries) rest :=
        (quietly_dropTextures _ h).bind fun b' hb' => quietly_pure hb'
      exact hrelease.bind fun p hp =>
        (quiet_say rfl).quietly.bind fun _ _ => quietly_pure ⟨hp, rfl, rfl, rfl⟩

theorem quietly_dropBuffer (h : Custody b₀ e.backend made released (resourceOf e.buffer ++ rest)) :
    e.dropBuffer.Quietly fun e' =>
      Custody b₀ e'.backend made (released ++ resourceOf e.buffer) rest ∧
      e'.font = e.font ∧ e'.buffer = none ∧ e'.program = e.program := by
  rw [dropBuffer]
  cases hb : e.buffer with
  | none =>
      rw [hb] at h
      exact quietly_pure ⟨by simpa using h, rfl, hb, rfl⟩
  | some buffer =>
      rw [hb] at h
      exact (Custody.release (r := .dropBuffer buffer) h rfl fun _ => rfl).bind fun p hp =>
        quietly_pure ⟨hp, rfl, rfl, rfl⟩

theorem quietly_dropProgram
    (h : Custody b₀ e.backend made released (resourceOf e.program ++ rest)) :
    e.dropProgram.Quietly fun e' =>
      Custody b₀ e'.backend made (released ++ resourceOf e.program) rest ∧
      e'.font = e.font ∧ e'.buffer = e.buffer ∧ e'.program = none := by
  rw [dropProgram]
  cases hp : e.program with
  | none =>
      rw [hp] at h
      exact quietly_pure ⟨by simpa using h, rfl, rfl, hp⟩
  | some program =>
      rw [hp] at h
      exact (Custody.release (r := .dropProgram program) h rfl fun _ => rfl).bind fun p hp =>
        quietly_pure ⟨hp, rfl, rfl, rfl⟩

/-- Shutting down releases what an engine holds, in order. -/
theorem quietly_shutdown_of_custody (h : Custody b₀ e.backend made released e.held) :
    e.shutdown.Quietly fun e' =>
      Custody b₀ e'.backend made (released ++ e.held) [] ∧ e'.held = [] := by
  refine (quietly_dropFont h).bind fun e₁ ⟨h₁, hfont, hbuffer, hprogram⟩ => ?_
  rw [← hbuffer] at h₁
  refine (quietly_dropBuffer h₁).bind fun e₂ ⟨h₂, hfont₂, hbuffer₂, hprogram₂⟩ => ?_
  rw [← hprogram, ← hprogram₂, ← List.append_nil (resourceOf e₂.program)] at h₂
  refine (quietly_dropProgram h₂).imp fun e₃ ⟨h₃, hfont₃, hbuffer₃, hprogram₃⟩ => ?_
  constructor
  · rw [hprogram₂, hprogram, hbuffer] at h₃
    simpa [held] using h₃
  · simp [held, textures, hfont₃, hfont₂, hfont, hbuffer₃, hbuffer₂, hprogram₃]

/-- Whether an engine holds all that was made and not released, and has released
either nothing or everything. -/
def Kept (b₀ : B) (e : Engine (Audited B) α) : Prop :=
  ∃ made released, Custody b₀ e.backend made released e.held ∧ (released = [] ∨ e.held = []) ∧
    InTurn released

theorem Kept.quietly_shutdown (h : e.Kept b₀) :
    e.shutdown.Quietly fun e' => e'.Kept b₀ ∧ Settled b₀ e'.backend := by
  obtain ⟨made, released, hcustody, hnothing, hturn⟩ := h
  refine (quietly_shutdown_of_custody hcustody).imp fun e' ⟨hcustody', hheld⟩ => ?_
  -- either nothing was released before, or nothing is released now
  have hturn' : InTurn (released ++ e.held) := by
    rcases hnothing with hreleased | hheld
    · rw [hreleased]
      exact e.inTurn_held
    · rwa [hheld, List.append_nil]
  exact ⟨⟨made, _, hheld ▸ hcustody', .inr hheld, hturn'⟩, hcustody'.settled hturn'⟩

/-- The end of an engine that is kept leaves the backend settled. -/
theorem Kept.quietly_close (h : e.Kept b₀) : e.close.Quietly (Settled b₀) :=
  h.quietly_shutdown.bind fun _ he => quietly_pure he.2

/-! ## The start of an engine -/

/-- An engine that has released nothing is kept. -/
theorem kept_of_custody (h : Custody b₀ e.backend made [] e.held) : e.Kept b₀ :=
  ⟨made, [], h, .inl rfl, .nil⟩

theorem Kept.quietly_abandon (h : e.Kept b₀) (fault : Fault) :
    (e.abandon fault).Quietly (Leaves b₀ (Kept b₀)) :=
  h.quietly_close.bind fun _ hb => quietly_pure hb

/-- An engine over a backend whose audit starts holds what it makes.  Where it is
not built, everything is given back. -/
theorem quietly_build (h : Accounts.Sound b₀) (font : Except Font.Fault (LoadedFont α))
    (pixels : Nat) :
    (build ({ inner := b₀ } : Audited B) font pixels).Quietly (Leaves b₀ (Kept b₀)) := by
  refine ((Custody.start h).make (r := .compile vertexShader fragmentShader) rfl).bind ?_
  rintro ⟨answer, b₁⟩ h₁
  cases answer with
  | error fault => exact (kept_of_custody h₁).quietly_abandon _
  | ok program =>
      refine (h₁.make (r := .makeBuffer) rfl).bind ?_
      rintro ⟨answer, b₂⟩ h₂
      cases answer with
      | error fault => exact (kept_of_custody h₂).quietly_abandon _
      | ok buffer =>
          cases font with
          | error fault => exact (kept_of_custody h₂).quietly_abandon _
          | ok font =>
              exact (quiet_say rfl).quietly.bind fun _ _ => quietly_pure (kept_of_custody h₂)

/-! ## Calls that draw no text -/

/-- A request that neither makes nor releases a resource keeps an engine. -/
theorem Kept.quietly_idle (h : e.Kept b₀) {r : Request α} (hr : r.released? = none)
    (hmade : ∀ answer, r.made? answer = none) :
    (Backend.perform e.backend r).Quietly fun p => ({ e with backend := p.2 }).Kept b₀ := by
  obtain ⟨made, released, hcustody, hnothing, hturn⟩ := h
  exact (hcustody.idle hr hmade).imp fun p hp => ⟨made, released, hp, hnothing, hturn⟩

theorem Kept.quietly_clear (h : e.Kept b₀) (color : Rgba) : (e.clear color).Quietly (Kept b₀) :=
  (h.quietly_idle (r := .clear color) rfl fun _ => rfl).bind fun _ he => quietly_pure he

theorem Kept.quietly_start (h : e.Kept b₀) (width height : Nat) :
    (e.start width height).Quietly fun p => p.2.Kept b₀ := by
  rw [start]
  split
  · exact quietly_pure h
  · exact (h.quietly_idle (r := .start _ width height) rfl fun _ => rfl).bind
      fun _ he => quietly_pure he

theorem Kept.quietly_finish (h : e.Kept b₀) : e.finish.Quietly (Kept b₀) := by
  rw [finish]
  split
  · exact quietly_pure h
  · exact (h.quietly_idle (r := .finish) rfl fun _ => rfl).bind fun _ he => quietly_pure he

end Engine

/-! ## Drawing -/

/-- Whether resources are held and none has been released. -/
def Holding (b₀ : B) (b : Audited B) (held : List Resource) : Prop :=
  ∃ made, Custody b₀ b made [] held

/-- The texture made for a glyph goes into the cache at once. -/
theorem quietly_fetch {cache : GlyphCache α}
    (h : Holding b₀ b (texturesOf cache.entries ++ rest)) (index : Nat) :
    (cache.fetch b index).Quietly fun p =>
      Holding b₀ p.2.2 (texturesOf p.2.1.entries ++ rest) := by
  rw [GlyphCache.fetch]
  split
  · exact quietly_pure h
  split
  · obtain ⟨made, hmade⟩ := h
    refine (hmade.make (r := .upload _) rfl).bind ?_
    rintro ⟨answer, b'⟩ hb'
    cases answer with
    | error fault => exact quietly_pure ⟨_, hb'⟩
    | ok texture =>
        refine (quiet_say rfl).quietly.bind fun _ _ => quietly_pure ⟨_, hb'.perm ?_⟩
        rw [texturesOf, texturesOf, List.map_append, List.append_assoc]
        exact List.perm_append_comm_assoc _ _ _
  · exact quietly_pure h

namespace Engine

section Draw

variable [Add α] [Sub α] [Div α] [NatCast α] [IntCast α]

/-- Whatever is drawn, and whether it fails, all that was made is in the cache. -/
theorem quietly_drawGlyphs (buffer : Handle .buffer) (color : Rgb) (glyphs : List Glyph) :
    ∀ {cache : GlyphCache α} {b : Audited B} (penX penY : α),
      Holding b₀ b (texturesOf cache.entries ++ rest) →
      (drawGlyphs buffer color cache b penX penY glyphs).Quietly fun p =>
        Holding b₀ p.2.2 (texturesOf p.2.1.entries ++ rest) := by
  induction glyphs with
  | nil => exact fun _ _ h => quietly_pure h
  | cons glyph glyphs ih =>
      intro cache b penX penY h
      rw [drawGlyphs]
      refine (quietly_fetch h glyph.id.toNat).bind ?_
      rintro ⟨answer, cache', b'⟩ h'
      dsimp only
      -- a glyph outside the font, a failure, a glyph without pixels, a quad to draw
      split
      · exact (quiet_say rfl).quietly.bind fun _ _ => ih penX penY h'
      · exact quietly_pure h'
      split
      · exact ih _ _ h'
      · obtain ⟨made, hmade⟩ := h'
        refine (hmade.idle (r := .draw _ _ _ _) rfl fun _ => rfl).bind ?_
        rintro ⟨answer, b''⟩ h''
        dsimp only
        split
        · exact quietly_pure ⟨made, h''⟩
        · exact ih _ _ ⟨made, h''⟩

/-- Drawing a text keeps an engine, whether it fails or not. -/
theorem Kept.quietly_drawText {e : Engine (Audited B) α} (h : e.Kept b₀) (text : String)
    (x baseline : α) (color : Rgb) :
    (e.drawText text x baseline color).Quietly fun p => p.2.Kept b₀ := by
  rw [drawText]
  split
  · rename_i font buffer hfont hbuffer
    obtain ⟨made, released, hcustody, hreleased | hheld, -⟩ := h
    · subst hreleased
      rw [held, textures, hfont] at hcustody
      refine (quietly_drawGlyphs buffer color _ x baseline ⟨made, hcustody⟩).bind ?_
      rintro ⟨answer, cache, b⟩ ⟨made', h'⟩
      exact quietly_pure (kept_of_custody h')
    · -- an engine that has released everything has no buffer to draw with
      simp [held, hbuffer] at hheld
  · exact quietly_pure h

/-! ## Runs of calls -/

/-- A call keeps an engine. -/
theorem Kept.quietly_serve {e : Engine (Audited B) α} (h : e.Kept b₀) (call : Call α) :
    (e.serve call).Quietly (Kept b₀) := by
  cases call with
  | clear color => exact h.quietly_clear color
  | start width height => exact (h.quietly_start width height).map
  | text text x baseline color => exact (h.quietly_drawText text x baseline color).map
  | finish => exact h.quietly_finish
  | shutdown => exact h.quietly_shutdown.imp fun _ he => he.1

/-- So does any number of them. -/
theorem Kept.quietly_serveAll (calls : List (Call α)) : ∀ {e : Engine (Audited B) α},
    e.Kept b₀ → (e.serveAll calls).Quietly (Kept b₀) := by
  induction calls with
  | nil => exact fun h => quietly_pure h
  | cons call calls ih =>
      intro e h
      rw [serveAll, List.foldlM_cons]
      exact (h.quietly_serve call).bind fun _ he => ih he

end Draw

end Engine

end Colloquy.Typeset
