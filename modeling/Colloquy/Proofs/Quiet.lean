import Colloquy.Play.Opening

/-!
# Steps without a missing resource

A step is *quiet* when it never finds a resource to be released missing.  What
reads assets and scripts, checks graphs and moves cursors is quiet, whatever it
is given.  Steps that ask a backend are not always.  Of those it is said what they
leave behind as well (`Logged.Quietly`), since a release finds its resource where
the steps before have left it.

One rule for each way of putting steps together is all that is needed.  They
follow the steps of a definition from the first to the last.
-/

namespace Colloquy

/-- Whether a notice says that a resource to be released is not there. -/
def Notice.tellsOfMissing : Notice → Bool
  | unknownResource _ _ => true
  | _ => false

namespace Logged

variable {β γ ε : Type}

/-- No resource to be released was missing. -/
def Quiet (x : Logged β) : Prop := ∀ n ∈ x.notices, n.tellsOfMissing = false

/-- No resource to be released was missing, and the value is as it should be. -/
def Quietly (x : Logged β) (P : β → Prop) : Prop := x.Quiet ∧ P x.value

theorem Quiet.quietly {x : Logged β} (h : x.Quiet) : x.Quietly fun a => a = x.value := ⟨h, rfl⟩

theorem Quietly.imp {x : Logged β} {P Q : β → Prop} (h : x.Quietly P) (hPQ : ∀ a, P a → Q a) :
    x.Quietly Q := ⟨h.1, hPQ _ h.2⟩

theorem quietly_pure {P : β → Prop} {a : β} (h : P a) : (pure a : Logged β).Quietly P :=
  ⟨by simp [Quiet], h⟩

theorem Quietly.bind {x : Logged β} {f : β → Logged γ} {P : β → Prop} {Q : γ → Prop}
    (hx : x.Quietly P) (hf : ∀ a, P a → (f a).Quietly Q) : (x >>= f).Quietly Q := by
  obtain ⟨hquiet, hvalue⟩ := hf x.value hx.2
  exact ⟨fun n hn => (List.mem_append.1 hn).elim (hx.1 n) (hquiet n), hvalue⟩

theorem Quietly.map {x : Logged β} {f : β → γ} {P : γ → Prop} (hx : x.Quietly fun a => P (f a)) :
    (f <$> x).Quietly P := by
  refine ⟨?_, hx.2⟩
  rw [Quiet, notices_map]
  exact hx.1

theorem quiet_pure (a : β) : (pure a : Logged β).Quiet := by simp [Quiet]

theorem Quiet.bind {x : Logged β} {f : β → Logged γ} (hx : x.Quiet) (hf : ∀ a, (f a).Quiet) :
    (x >>= f).Quiet :=
  (Quietly.bind (Q := fun _ => True) hx.quietly fun a _ => ⟨hf a, trivial⟩).1

theorem Quiet.map {x : Logged β} (hx : x.Quiet) (f : β → γ) : (f <$> x).Quiet := by
  rwa [Quiet, notices_map]

theorem Quiet.andThen {x : Logged (Except ε β)} {f : β → Logged (Except ε γ)} (hx : x.Quiet)
    (hf : ∀ a, (f a).Quiet) : (x.andThen f).Quiet := by
  rw [Logged.andThen]
  cases x.value with
  | error e => exact hx
  | ok a => exact fun n hn => (List.mem_append.1 hn).elim (hx n) (hf a n)

/-- Saying one thing is quiet unless it is that a resource is missing. -/
theorem quiet_say {n : Notice} (h : n.tellsOfMissing = false) : (say n).Quiet := by
  simpa [Quiet] using h

theorem quiet_sayIf {p : Prop} [Decidable p] {n : Notice}
    (h : n.tellsOfMissing = false) : (sayIf p n).Quiet := by
  rw [sayIf]
  split
  · exact quiet_say h
  · exact quiet_pure ()

end Logged

open Logged

/-! ## Scripts -/

namespace Script

namespace Reading

theorem quiet_commit (r : Reading) : r.commit.Quiet := by
  rw [commit]
  split
  · exact quiet_pure _
  · split
    · exact (quiet_say rfl).bind fun _ => quiet_pure _
    · exact quiet_pure _

theorem quiet_setText (r : Reading) (textLine : Nat) (body : List (List Char)) :
    (r.setText textLine body).Quiet := by
  rw [setText]
  split
  · exact quiet_pure _
  · exact (quiet_say rfl).bind fun _ => quiet_pure _

theorem quiet_addChoice (r : Reading) (line : Nat) (choice : Choice) :
    (r.addChoice line choice).Quiet := by
  rw [addChoice]
  split
  · exact quiet_pure _
  · exact (quiet_say rfl).bind fun _ => quiet_pure _

theorem quiet_obey (r : Reading) (line : Nat) (d : Directive) : (r.obey line d).Quiet := by
  cases d with
  | nothing => exact quiet_pure _
  | start id => exact quiet_pure _
  | state id => exact r.quiet_commit.bind fun _ => quiet_pure _
  | text => exact quiet_pure _
  | choice body =>
      rw [obey]
      split
      · exact quiet_pure _
      · exact (r.quiet_addChoice line _).map _
  | endState => exact r.quiet_commit.map _
  | unknown => exact (quiet_say rfl).bind fun _ => quiet_pure _

theorem quiet_step (r : Reading) (line : Nat) (cs : List Char) : (r.step line cs).Quiet := by
  rw [step]
  split
  · exact r.quiet_obey line _
  · split
    · exact quiet_pure _
    · exact quiet_pure _
  · split
    · exact (r.quiet_setText _ _).map _
    · exact quiet_pure _

theorem quiet_steps (lines : List (List Char)) : ∀ (r : Reading) (line : Nat),
    (r.steps line lines).Quiet := by
  induction lines with
  | nil => exact fun r line => quiet_pure _
  | cons cs rest ih => exact fun r line => (r.quiet_step line cs).andThen fun r => ih r _

theorem quiet_closeBlock (r : Reading) : r.closeBlock.Quiet := by
  rw [closeBlock]
  split
  · exact quiet_pure _
  · exact quiet_pure _
  · exact (quiet_say rfl).bind fun _ => (r.quiet_setText _ _).map _

end Reading

theorem quiet_read (source : String) : (read source).Quiet :=
  (Reading.quiet_steps _ _ _).andThen fun r =>
    r.quiet_closeBlock.andThen fun r => r.quiet_commit.bind fun _ => quiet_pure _

theorem quiet_load (path : String) (text : Except Files.ReadFault String) :
    (load path text).Quiet := by
  cases text with
  | error fault => exact quiet_pure _
  | ok source =>
      refine (quiet_read _).bind fun answer => ?_
      split
      · exact quiet_pure _
      · exact (quiet_say rfl).bind fun _ => quiet_pure _

end Script

/-! ## Assets -/

namespace Asset

namespace Library

theorem quiet_read (lib : Library) (name : String) : (lib.read name).Quiet := by
  rw [read]
  split
  · exact (quiet_say rfl).bind fun _ => quiet_pure _
  · exact quiet_pure _

theorem quiet_scene (lib : Library) (name : String) : (lib.scene name).Quiet := by
  refine (lib.quiet_read name).bind fun answer => ?_
  split
  · exact quiet_pure _
  · split
    · exact quiet_pure _
    · split
      · exact quiet_pure _
      · exact quiet_pure _

theorem quiet_sample (lib : Library) (name : String) : (lib.sample name).Quiet := by
  refine (lib.quiet_read name).bind fun answer => ?_
  split
  · exact quiet_pure _
  · exact quiet_pure _

theorem quiet_samples (lib : Library) (names : List String) : (lib.samples names).Quiet := by
  induction names with
  | nil => exact quiet_pure _
  | cons name rest ih =>
      refine (lib.quiet_sample name).bind fun answer => ?_
      split
      · exact quiet_pure _
      · exact ih.bind fun _ => quiet_pure _

end Library

theorem Camera.quiet_fit (c : Camera) (width height : Nat) : (c.fit width height).Quiet :=
  (quiet_sayIf rfl).bind fun _ => quiet_pure _

end Asset

/-! ## Play -/

theorem Dialogue.quiet_confirm (d : Dialogue) (c : Dialogue.Cursor) : (d.confirm c).Quiet := by
  rw [confirm]
  split
  · exact quiet_pure _
  split
  · exact quiet_pure _
  split
  · exact (quiet_say rfl).bind fun _ => quiet_pure _
  split
  · exact quiet_pure _
  split
  · exact (quiet_say rfl).bind fun _ => quiet_pure _
  split
  · exact (quiet_say rfl).bind fun _ => quiet_pure _
  · refine Quiet.bind ?_ fun _ => quiet_pure _
    exact (quiet_sayIf rfl).bind fun _ => quiet_pure _

namespace Play

theorem quiet_sayIssues (issues : List Script.Issue) : (sayIssues issues).Quiet := by
  induction issues with
  | nil => exact quiet_pure _
  | cons issue rest ih => exact (quiet_say rfl).bind fun _ => ih

namespace Mode

variable {S α : Type}

theorem quiet_ofParts (settings : Settings α) (surface : S) (graph : Script.Graph)
    (scene : Asset.Scene) (samples : List Asset.Sample) :
    (ofParts settings surface graph scene samples).Quiet := by
  rw [ofParts]
  split
  · exact quiet_pure _
  · split
    · exact (quiet_sayIssues _).bind fun _ => (quiet_say rfl).bind fun _ => quiet_pure _
    · exact (quiet_pure _).bind fun _ => (quiet_say rfl).bind fun _ => quiet_pure _

theorem quiet_fitScene (scene : Asset.Scene) (width height : Nat) :
    (fitScene scene width height).Quiet := by
  rw [fitScene]
  split
  · exact (Asset.Camera.quiet_fit _ width height).bind fun _ => quiet_pure _
  · exact quiet_pure _

variable [Surface S α] [Zero α] [Add α] [Sub α] [Mul α] [Div α] [NatCast α] [LE α] [DecidableLE α]

theorem quiet_handle (m : Mode S α) (viewport : Nat) (event : Event α) :
    (m.handle viewport event).Quiet := by
  rw [handle.eq_def]
  split
  · exact quiet_pure _
  · exact (m.dialogue.quiet_confirm _).bind fun _ => quiet_pure _
  · exact quiet_pure _
  · exact quiet_pure _
  · split
    · exact quiet_pure _
    · exact (m.dialogue.quiet_confirm _).bind fun _ => quiet_pure _
  · exact quiet_pure _
  · split
    · exact quiet_pure _
    · exact quiet_pure _

end Mode

end Play

end Colloquy
