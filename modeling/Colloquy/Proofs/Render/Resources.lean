import Colloquy.Proofs.Quiet
import Colloquy.Proofs.Render.Slots
import Colloquy.Render.Faulty
import Colloquy.Render.Headless

/-!
# The resources of a backend

A backend *keeps account* of its resources when every request changes them by
what the answer says and by nothing else (`Accounts`).  A request that makes a
resource adds the one it answers with.  One that releases a resource takes that
one away, provided it is there, and is quiet about it.  All others leave the
resources alone.  What a request answers besides is left open, so any of them may
fail.

The headless backend keeps account (`Headless.accounts`), in every state it can
get into, and so does a backend that fails as planned if the one inside does.
-/

namespace Colloquy.Render

open scoped List
open Logged

/-- A resource of some kind. -/
structure Resource where
  /-- The kind. -/
  kind : Kind
  /-- The handle. -/
  handle : Handle kind
deriving Repr, DecidableEq

theorem Resource.mk_injective (kind : Kind) : (Resource.mk kind).Injective := fun _ _ h => by
  cases h
  rfl

namespace Request

variable {α : Type}

/-- The resource that a request releases. -/
def released? : Request α → Option Resource
  | dropProgram h => some ⟨.program, h⟩
  | dropBuffer h => some ⟨.buffer, h⟩
  | dropTexture h => some ⟨.texture, h⟩
  | _ => none

/-- The resource that a request has made. -/
def made? : (r : Request α) → r.Answer → Option Resource
  | compile _ _, .ok h => some ⟨.program, h⟩
  | makeBuffer, .ok h => some ⟨.buffer, h⟩
  | upload _, .ok h => some ⟨.texture, h⟩
  | _, _ => none

end Request

/-- A backend that keeps account of its resources. -/
class Accounts (B : Type) {α : outParam Type} [Backend B α] where
  /-- The resources that are there. -/
  resources : B → List Resource
  /-- What every state of the backend keeps. -/
  Sound : B → Prop
  nodup : ∀ {b : B}, Sound b → (resources b).Nodup
  sound : ∀ {b : B} (r : Request α), Sound b → Sound (Backend.perform b r).value.2
  conserves : ∀ {b : B} (r : Request α), Sound b → (∀ x ∈ r.released?, x ∈ resources b) →
    (Backend.perform b r).Quietly fun p =>
      r.released?.toList ++ resources p.2 ~ (r.made? p.1).toList ++ resources b

/-! ## The headless backend -/

namespace Headless

variable {α : Type}

/-- The resources that are there. -/
def resources (b : Headless α) : List Resource :=
  b.programs.handles.map (Resource.mk .program) ++ (b.buffers.handles.map (Resource.mk .buffer) ++
    b.textures.handles.map (Resource.mk .texture))

/-- What every state of the backend keeps. -/
structure Sound (b : Headless α) : Prop where
  programs : b.programs.Sound
  buffers : b.buffers.Sound
  textures : b.textures.Sound

/-- The states that a backend can get into. -/
inductive Reachable : Headless α → Prop where
  /-- A new backend. -/
  | new : Reachable {}
  /-- A request answered. -/
  | perform {b : Headless α} (r : Request α) : Reachable b → Reachable (b.perform r).value.2
  /-- The commands taken. -/
  | take {b : Headless α} : Reachable b → Reachable b.take.2

theorem nodup_resources (b : Headless α) : b.resources.Nodup := by
  have hmap : ∀ {kind : Kind} {β : Type} (s : Slots kind β),
      (s.handles.map (Resource.mk kind)).Nodup :=
    fun s => s.nodup_handles.map (Resource.mk_injective _)
  simp only [resources, List.nodup_append, List.mem_append, List.mem_map]
  refine ⟨hmap b.programs, ⟨hmap b.buffers, hmap b.textures, ?_⟩, ?_⟩
  · rintro _ ⟨h, -, rfl⟩ _ ⟨h', -, rfl⟩ he
    cases he
  · rintro _ ⟨h, -, rfl⟩ _ (⟨h', -, rfl⟩ | ⟨h', -, rfl⟩) he
    · cases he
    · cases he

theorem countP_kind {kind : Kind} {β : Type} (s : Slots kind β) (k : Kind) :
    (s.handles.map (Resource.mk kind)).countP (fun x => x.kind = k) =
      if kind = k then s.live else 0 := by
  rw [List.countP_map, Slots.live_eq_length_handles]
  by_cases h : kind = k
  · subst h
    rw [if_pos rfl]
    exact List.countP_eq_length.2 (by simp)
  · rw [if_neg h]
    exact List.countP_eq_zero.2 (by simp [h])

/-- The same resources are as many of each kind. -/
theorem live_eq_of_perm {b b' : Headless α} (h : b.resources ~ b'.resources) :
    b.live = b'.live := by
  have hcount := fun k => h.countP_eq fun x => x.kind = k
  simp only [resources, List.countP_append, countP_kind] at hcount
  have hprograms := hcount .program
  have hbuffers := hcount .buffer
  have htextures := hcount .texture
  simp only [reduceCtorEq, if_true, if_false, Nat.add_zero, Nat.zero_add]
    at hprograms hbuffers htextures
  rw [live, live, hprograms, hbuffers, htextures]

/-! ### One resource more -/

theorem resources_programs {b : Headless α} {programs : Slots .program Unit}
    {h : Handle .program} (hperm : programs.handles ~ h :: b.programs.handles) :
    ({ b with programs } : Headless α).resources ~ ⟨.program, h⟩ :: b.resources :=
  (hperm.map _).append_right _

theorem resources_buffers {b : Headless α} {buffers : Slots .buffer Unit}
    {h : Handle .buffer} (hperm : buffers.handles ~ h :: b.buffers.handles) :
    ({ b with buffers } : Headless α).resources ~ ⟨.buffer, h⟩ :: b.resources :=
  (((hperm.map _).append_right _).append_left _).trans List.perm_middle

theorem resources_textures {b : Headless α} {textures : Slots .texture Bitmap}
    {h : Handle .texture} (hperm : textures.handles ~ h :: b.textures.handles) :
    ({ b with textures } : Headless α).resources ~ ⟨.texture, h⟩ :: b.resources :=
  ((((hperm.map _).append_left _).trans List.perm_middle).append_left _).trans List.perm_middle

/-! ### Requests -/

theorem sound_release {kind : Kind} {β : Type} {s : Slots kind β} (hs : s.Sound) (h : Handle kind) :
    (release s h).value.Sound := by
  rw [release]
  split
  · exact hs.remove? ‹_›
  · exact hs

theorem exists_release {kind : Kind} {β : Type} {s : Slots kind β} (hs : s.Sound)
    {h : Handle kind} (hh : h ∈ s.handles) :
    ∃ s', release s h = pure s' ∧ s.handles ~ h :: s'.handles := by
  obtain ⟨s', hremove, hperm⟩ := Slots.exists_remove? hs hh
  exact ⟨s', by rw [release, hremove], hperm⟩

theorem Sound.perform {b : Headless α} (hb : b.Sound) (r : Request α) :
    (b.perform r).value.2.Sound := by
  obtain ⟨hprograms, hbuffers, htextures⟩ := hb
  cases r with
  | compile vertex fragment =>
      simp only [Headless.perform, compile, value_pure]
      split
      · exact ⟨hprograms, hbuffers, htextures⟩
      · exact ⟨hprograms.insert (), hbuffers, htextures⟩
  | dropProgram h => exact ⟨sound_release hprograms h, hbuffers, htextures⟩
  | makeBuffer => exact ⟨hprograms, hbuffers.insert (), htextures⟩
  | dropBuffer h => exact ⟨hprograms, sound_release hbuffers h, htextures⟩
  | upload bitmap =>
      simp only [Headless.perform, upload, value_pure]
      split
      · exact ⟨hprograms, hbuffers, htextures.insert bitmap⟩
      · exact ⟨hprograms, hbuffers, htextures⟩
  | dropTexture h => exact ⟨hprograms, hbuffers, sound_release htextures h⟩
  | clear color => exact ⟨hprograms, hbuffers, htextures⟩
  | start program width height =>
      simp only [Headless.perform, start, value_pure]
      split
      · exact ⟨hprograms, hbuffers, htextures⟩
      · exact ⟨hprograms, hbuffers, htextures⟩
  | draw buffer texture quad color =>
      simp only [Headless.perform, draw, value_pure]
      split
      · exact ⟨hprograms, hbuffers, htextures⟩
      split
      · exact ⟨hprograms, hbuffers, htextures⟩
      split
      · exact ⟨hprograms, hbuffers, htextures⟩
      · exact ⟨hprograms, hbuffers, htextures⟩
  | finish => exact ⟨hprograms, hbuffers, htextures⟩

theorem Reachable.sound {b : Headless α} (h : b.Reachable) : b.Sound := by
  induction h with
  | new => exact ⟨.empty, .empty, .empty⟩
  | perform r _ ih => exact ih.perform r
  | take _ ih => exact ⟨ih.programs, ih.buffers, ih.textures⟩

theorem conserves {b : Headless α} (r : Request α) (hb : b.Sound)
    (hr : ∀ x ∈ r.released?, x ∈ b.resources) :
    (b.perform r).Quietly fun p =>
      r.released?.toList ++ p.2.resources ~ (r.made? p.1).toList ++ b.resources := by
  cases r with
  | compile vertex fragment =>
      refine quietly_pure ?_
      simp only [compile]
      split
      · exact .refl _
      · exact resources_programs (Slots.handles_insert hb.programs ())
  | dropProgram h =>
      have hh : h ∈ b.programs.handles := by simpa [Request.released?, resources] using hr
      obtain ⟨programs, hrelease, hperm⟩ := exists_release hb.programs hh
      rw [Headless.perform, hrelease]
      exact quietly_pure (resources_programs (b := { b with programs }) hperm).symm
  | makeBuffer => exact quietly_pure (resources_buffers (Slots.handles_insert hb.buffers ()))
  | dropBuffer h =>
      have hh : h ∈ b.buffers.handles := by simpa [Request.released?, resources] using hr
      obtain ⟨buffers, hrelease, hperm⟩ := exists_release hb.buffers hh
      rw [Headless.perform, hrelease]
      exact quietly_pure (resources_buffers (b := { b with buffers }) hperm).symm
  | upload bitmap =>
      refine quietly_pure ?_
      simp only [upload]
      split
      · exact resources_textures (Slots.handles_insert hb.textures bitmap)
      · exact .refl _
  | dropTexture h =>
      have hh : h ∈ b.textures.handles := by simpa [Request.released?, resources] using hr
      obtain ⟨textures, hrelease, hperm⟩ := exists_release hb.textures hh
      rw [Headless.perform, hrelease]
      exact quietly_pure (resources_textures (b := { b with textures }) hperm).symm
  | clear color => exact quietly_pure (.refl _)
  | start program width height =>
      refine quietly_pure ?_
      simp only [start]
      split
      · exact .refl _
      · exact .refl _
  | draw buffer texture quad color =>
      refine quietly_pure ?_
      simp only [draw]
      split
      · exact .refl _
      split
      · exact .refl _
      split
      · exact .refl _
      · exact .refl _
  | finish => exact quietly_pure (.refl _)

instance accounts : Accounts (Headless α) where
  resources := resources
  Sound := Sound
  nodup _ := nodup_resources _
  sound r hb := hb.perform r
  conserves := conserves

end Headless

/-! ## Backends that fail as planned -/

namespace Faulty

variable {B α : Type} [Backend B α]

/-- A request fails by plan, or the backend inside answers it. -/
theorem perform_cases (b : Faulty B) (r : Request α) :
    ∃ b' : Faulty B, b'.inner = b.inner ∧ (Backend.perform b r = b'.forward r ∨
      ∃ answer, Backend.perform b r = pure (answer, b') ∧ r.released? = none ∧
        r.made? answer = none) := by
  cases r with
  | compile vertex fragment =>
      refine ⟨b.note .program, rfl, ?_⟩
      simp only [Backend.perform, Faulty.perform]
      split
      · exact .inr ⟨_, rfl, rfl, rfl⟩
      · exact .inl rfl
  | makeBuffer =>
      refine ⟨b.note .buffer, rfl, ?_⟩
      simp only [Backend.perform, Faulty.perform]
      split
      · exact .inr ⟨_, rfl, rfl, rfl⟩
      · exact .inl rfl
  | upload bitmap =>
      refine ⟨b.note (.texture bitmap.width bitmap.height), rfl, ?_⟩
      simp only [Backend.perform, Faulty.perform]
      split
      · exact .inr ⟨_, rfl, rfl, rfl⟩
      · exact .inl rfl
  | dropProgram h => exact ⟨b.note (.released .program), rfl, .inl rfl⟩
  | dropBuffer h => exact ⟨b.note (.released .buffer), rfl, .inl rfl⟩
  | dropTexture h => exact ⟨b.note (.released .texture), rfl, .inl rfl⟩
  | start program width height =>
      refine ⟨b, rfl, ?_⟩
      simp only [Backend.perform, Faulty.perform]
      split
      · exact .inr ⟨_, rfl, rfl, rfl⟩
      · exact .inl rfl
  | draw buffer texture quad color =>
      refine ⟨{ b with quads := b.quads + 1 }, rfl, ?_⟩
      simp only [Backend.perform, Faulty.perform]
      split
      · exact .inr ⟨_, rfl, rfl, rfl⟩
      · exact .inl rfl
  | clear color => exact ⟨b, rfl, .inl rfl⟩
  | finish => exact ⟨b, rfl, .inl rfl⟩

instance [Accounts B] : Accounts (Faulty B) where
  resources b := Accounts.resources b.inner
  Sound b := Accounts.Sound b.inner
  nodup := Accounts.nodup
  sound {b} r hb := by
    obtain ⟨b', hinner, hperform | ⟨answer, hperform, -, -⟩⟩ := b.perform_cases r
    · rw [hperform]
      exact Accounts.sound r (hinner ▸ hb)
    · rw [hperform]
      exact hinner ▸ hb
  conserves {b} r hb hr := by
    obtain ⟨b', hinner, hperform | ⟨answer, hperform, hreleased, hmade⟩⟩ := b.perform_cases r
    · rw [hperform, ← hinner]
      rw [← hinner] at hb hr
      exact (Accounts.conserves r hb hr).bind fun p hp => quietly_pure hp
    · rw [hperform, ← hinner, hreleased]
      refine quietly_pure ?_
      rw [hmade]

end Faulty

end Colloquy.Render
