import Colloquy.Render.Backend

/-!
# Backends that fail as planned

A backend wrapped so that chosen requests fail, to see what is done about it.
It keeps a journal of every resource it was asked to make, whether it was made
or not, and of every release.  A request that fails by plan does not reach the
backend inside.
-/

namespace Colloquy.Render

/-- Which requests fail.  Requests of a kind are counted from zero. -/
structure FaultPlan where
  /-- The program that is not compiled. -/
  program : Option Nat := none
  /-- The buffer that is not made. -/
  buffer : Option Nat := none
  /-- The texture that is not made. -/
  texture : Option Nat := none
  /-- Whether no pass starts. -/
  start : Bool := false
  /-- The quad that is not drawn. -/
  quad : Option Nat := none
  /-- The reason given for a resource that is not made. -/
  reason : String := ""
deriving Repr, DecidableEq, Inhabited

/-- Something that happened to a resource. -/
inductive JournalEntry where
  /-- A program was asked for. -/
  | program
  /-- A buffer was asked for. -/
  | buffer
  /-- A texture was asked for. -/
  | texture (width height : Nat)
  /-- A resource was given back. -/
  | released (kind : Kind)
deriving Repr, DecidableEq, Inhabited

/-- The kind of resource an entry asks for. -/
def JournalEntry.made? : JournalEntry → Option Kind
  | program => some .program
  | buffer => some .buffer
  | texture _ _ => some .texture
  | released _ => none

/-- A backend that fails as planned. -/
structure Faulty (B : Type) where
  /-- The backend inside. -/
  inner : B
  /-- The plan. -/
  plan : FaultPlan := {}
  /-- What happened to resources. -/
  journal : List JournalEntry := []
  /-- How many quads were to be drawn. -/
  quads : Nat := 0
deriving Inhabited

namespace Faulty

variable {B α : Type} [Backend B α]

/-- How many resources of a kind were asked for. -/
def tries (b : Faulty B) (kind : Kind) : Nat :=
  b.journal.countP fun entry => entry.made? = some kind

/-- One more entry in the journal. -/
def note (b : Faulty B) (entry : JournalEntry) : Faulty B :=
  { b with journal := b.journal ++ [entry] }

/-- A request handed to the backend inside. -/
def forward (b : Faulty B) (r : Request α) : Logged (r.Answer × Faulty B) := do
  let (answer, inner) ← Backend.perform b.inner r
  pure (answer, { b with inner })

/-- The answer to a request. -/
def perform (b : Faulty B) : (r : Request α) → Logged (r.Answer × Faulty B)
  | .compile vertex fragment =>
      let noted := b.note .program
      if b.plan.program = some (b.tries .program) then
        pure (.error (.compile (.refused b.plan.reason)), noted)
      else noted.forward (.compile vertex fragment)
  | .makeBuffer =>
      let noted := b.note .buffer
      if b.plan.buffer = some (b.tries .buffer) then
        pure (.error (.resource (.refused b.plan.reason)), noted)
      else noted.forward .makeBuffer
  | .upload bitmap =>
      let noted := b.note (.texture bitmap.width bitmap.height)
      if b.plan.texture = some (b.tries .texture) then
        pure (.error (.resource (.refused b.plan.reason)), noted)
      else noted.forward (.upload bitmap)
  | .dropProgram h => (b.note (.released .program)).forward (.dropProgram h)
  | .dropBuffer h => (b.note (.released .buffer)).forward (.dropBuffer h)
  | .dropTexture h => (b.note (.released .texture)).forward (.dropTexture h)
  | .start program width height =>
      if b.plan.start then pure (.error (.invalidHandle 0), b)
      else b.forward (.start program width height)
  | .draw buffer texture quad color =>
      let counted := { b with quads := b.quads + 1 }
      if b.plan.quad = some b.quads then pure (.error (.invalidHandle texture.number), counted)
      else counted.forward (.draw buffer texture quad color)
  | .clear color => b.forward (.clear color)
  | .finish => b.forward .finish

instance : Backend (Faulty B) α := ⟨perform⟩

end Faulty

end Colloquy.Render
