import Colloquy.Proofs.Render.Resources

/-!
# Passes of a headless backend

No pass is in progress when every start that the backend has written down has an
end behind it, and a quad is refused (`Headless.AtRest`).  Starting a pass with a
program that is there puts an end to that, and ending one brings it about.  No
other request makes a difference (`Headless.samePass_perform`).

Nothing is said about how starts and ends alternate, since a backend does not ask
for that.  One end is enough for all the starts before it.
-/

namespace Colloquy.Render

/-! ## Lists that close what they open -/

section Closes

variable {β : Type} {opens ends : β → Bool} {items more : List β} {x : β}

/-- Every item of a list that opens something has one behind it that ends it. -/
def Closes (opens ends : β → Bool) (items : List β) : Prop :=
  ∀ x rest, x :: rest <:+ items → opens x = true → ∃ y ∈ rest, ends y = true

theorem closes_nil : Closes opens ends [] := by
  intro x rest h
  simp at h

theorem closes_cons :
    Closes opens ends (x :: items) ↔
      (opens x = true → ∃ y ∈ items, ends y = true) ∧ Closes opens ends items := by
  constructor
  · intro h
    exact ⟨h x items (List.suffix_refl _),
      fun y rest hs => h y rest (hs.trans (List.suffix_cons ..))⟩
  · rintro ⟨hx, hitems⟩ y rest hs
    rcases List.suffix_cons_iff.1 hs with he | hs
    · cases he
      exact hx
    · exact hitems y rest hs

/-- Items that neither open nor end anything make no difference at the end. -/
theorem closes_append_iff (hmore : ∀ x ∈ more, opens x = false ∧ ends x = false) :
    Closes opens ends (items ++ more) ↔ Closes opens ends items := by
  have hend : ∀ l : List β, (∃ y ∈ l ++ more, ends y = true) ↔ ∃ y ∈ l, ends y = true := by
    intro l
    constructor
    · rintro ⟨y, hy, he⟩
      rcases List.mem_append.1 hy with hy | hy
      · exact ⟨y, hy, he⟩
      · rw [(hmore y hy).2] at he
        cases he
    · rintro ⟨y, hy, he⟩
      exact ⟨y, List.mem_append_left _ hy, he⟩
  induction items with
  | nil =>
      refine iff_of_true ?_ closes_nil
      intro y rest hs ho
      rw [(hmore y (hs.subset (List.mem_cons_self ..))).1] at ho
      cases ho
  | cons y items ih =>
      rw [List.cons_append, closes_cons, closes_cons, hend]
      exact and_congr_right fun _ => ih

/-- An item at the end that ends something ends all that is open. -/
theorem closes_concat (he : ends x = true) (ho : opens x = false) (items : List β) :
    Closes opens ends (items ++ [x]) := by
  induction items with
  | nil =>
      refine closes_cons.2 ⟨fun h => ?_, closes_nil⟩
      rw [ho] at h
      cases h
  | cons y items ih => exact closes_cons.2 ⟨fun _ => ⟨x, by simp, he⟩, ih⟩

/-- An item at the end that opens something has none behind it. -/
theorem not_closes_concat (ho : opens x = true) (items : List β) :
    ¬ Closes opens ends (items ++ [x]) := by
  intro h
  obtain ⟨y, hy, -⟩ := h x [] (List.suffix_append ..) ho
  cases hy

end Closes

variable {α : Type}

/-! ## Requests and commands of passes -/

/-- Whether a command starts a pass. -/
def Command.starts : Command α → Bool
  | start _ _ _ => true
  | _ => false

/-- Whether a command ends a pass. -/
def Command.ends : Command α → Bool
  | finish => true
  | _ => false

namespace Request

/-- Whether a request starts a pass or ends one. -/
def isOfPass : Request α → Bool
  | start _ _ _ | finish => true
  | _ => false

/-- Whether a request makes a program or releases one. -/
def isOfProgram : Request α → Bool
  | compile _ _ | dropProgram _ => true
  | _ => false

theorem isOfPass_of_released (r : Request α) (h : r.released? ≠ none) : r.isOfPass = false := by
  cases r with
  | start program width height => exact absurd rfl h
  | finish => exact absurd rfl h
  | _ => rfl

end Request

namespace Headless

variable {b b' b'' : Headless α}

/-- Whether no pass is in progress. -/
structure AtRest (b : Headless α) : Prop where
  /-- Every start written down has an end behind it. -/
  closes : Closes Command.starts Command.ends b.commands
  /-- A quad is refused. -/
  refuses : ∀ buffer texture quad color,
    (b.perform (.draw buffer texture quad color)).value = (.error .noActivePass, b)

/-- A quad is refused for want of a pass just when there is none. -/
theorem refuses_iff {buffer : Handle .buffer} {texture : Handle .texture} {quad : Quad α}
    {color : Rgb} :
    (b.perform (.draw buffer texture quad color)).value = (.error .noActivePass, b) ↔
      b.active = none := by
  show b.draw buffer texture quad color = _ ↔ _
  rw [draw]
  cases b.active with
  | none => simp
  | some program =>
      rw [if_neg (by simp)]
      split
      · simp
      split
      · simp
      · simp

/-- A backend that has the same pass in progress as another, and has written down
neither starts nor ends since. -/
structure SamePass (b b' : Headless α) : Prop where
  active : b'.active = b.active
  commands : ∃ more, b'.commands = b.commands ++ more ∧
    ∀ c ∈ more, c.starts = false ∧ c.ends = false

theorem SamePass.refl (b : Headless α) : b.SamePass b := ⟨rfl, [], by simp, by simp⟩

theorem SamePass.trans (h : b.SamePass b') (h' : b'.SamePass b'') : b.SamePass b'' := by
  obtain ⟨hactive, more, hcommands, hmore⟩ := h
  obtain ⟨hactive', more', hcommands', hmore'⟩ := h'
  refine ⟨hactive'.trans hactive, more ++ more', ?_, ?_⟩
  · rw [hcommands', hcommands, List.append_assoc]
  · intro c hc
    exact (List.mem_append.1 hc).elim (hmore c) (hmore' c)

theorem SamePass.atRest_iff (h : b.SamePass b') : b'.AtRest ↔ b.AtRest := by
  obtain ⟨hactive, more, hcommands, hmore⟩ := h
  have hcloses : Closes Command.starts Command.ends b'.commands ↔
      Closes Command.starts Command.ends b.commands := by
    rw [hcommands, closes_append_iff hmore]
  constructor
  · rintro ⟨hc, hr⟩
    exact ⟨hcloses.1 hc, fun buffer texture quad color =>
      refuses_iff.2 (hactive ▸ refuses_iff.1 (hr buffer texture quad color))⟩
  · rintro ⟨hc, hr⟩
    exact ⟨hcloses.2 hc, fun buffer texture quad color =>
      refuses_iff.2 (hactive.trans (refuses_iff.1 (hr buffer texture quad color)))⟩

/-- A request that neither starts nor ends a pass leaves passes as they are. -/
theorem samePass_perform (b : Headless α) {r : Request α} (hr : r.isOfPass = false) :
    b.SamePass (b.perform r).value.2 := by
  have hsame : ∀ {b' : Headless α}, b'.active = b.active → b'.commands = b.commands →
      b.SamePass b' := fun ha hc => ⟨ha, [], by simpa using hc, by simp⟩
  cases r with
  | compile vertex fragment =>
      simp only [perform, compile, Logged.value_pure]
      split
      · exact .refl b
      · exact hsame rfl rfl
  | dropProgram h => exact hsame rfl rfl
  | makeBuffer => exact hsame rfl rfl
  | dropBuffer h => exact hsame rfl rfl
  | upload bitmap =>
      simp only [perform, upload, Logged.value_pure]
      split
      · exact hsame rfl rfl
      · exact .refl b
  | dropTexture h => exact hsame rfl rfl
  | clear color => exact ⟨rfl, [.clear color], rfl, by simp [Command.starts, Command.ends]⟩
  | start program width height => cases hr
  | draw buffer texture quad color =>
      simp only [perform, draw, Logged.value_pure]
      split
      · exact .refl b
      split
      · exact .refl b
      split
      · exact .refl b
      · exact ⟨rfl, [.quad texture quad color], rfl, by simp [Command.starts, Command.ends]⟩
  | finish => cases hr

/-- A request that neither makes nor releases a program leaves them as they are. -/
theorem programs_perform (b : Headless α) {r : Request α} (hr : r.isOfProgram = false) :
    (b.perform r).value.2.programs = b.programs := by
  cases r with
  | compile vertex fragment => cases hr
  | dropProgram h => cases hr
  | makeBuffer => rfl
  | dropBuffer h => rfl
  | upload bitmap =>
      simp only [perform, upload, Logged.value_pure]
      split
      · rfl
      · rfl
  | dropTexture h => rfl
  | clear color => rfl
  | start program width height =>
      simp only [perform, start, Logged.value_pure]
      split
      · rfl
      · rfl
  | draw buffer texture quad color =>
      simp only [perform, draw, Logged.value_pure]
      split
      · rfl
      split
      · rfl
      split
      · rfl
      · rfl
  | finish => rfl

/-- A pass starts with a program that is there. -/
theorem value_perform_start {program : Handle .program} (h : b.programs.contains program = true)
    (width height : Nat) :
    (b.perform (.start program width height)).value =
      (.ok (), { b with active := some program }.record (.start program width height)) := by
  simp only [perform, start, if_pos h, Logged.value_pure]

/-- A quad is drawn in a pass, with a buffer and a texture that are there. -/
theorem value_perform_draw {buffer : Handle .buffer} {texture : Handle .texture}
    (hpass : b.active.isSome = true) (hbuffer : b.buffers.contains buffer = true)
    (htexture : b.textures.contains texture = true) (quad : Quad α) (color : Rgb) :
    (b.perform (.draw buffer texture quad color)).value =
      (.ok (), b.record (.quad texture quad color)) := by
  have hopen : ¬ b.active.isNone = true := by simpa [Option.isSome_iff_ne_none] using hpass
  rw [perform, Logged.value_pure, draw, if_neg hopen, if_neg (by simp [hbuffer]),
    if_neg (by simp [htexture])]

theorem not_atRest_start {program : Handle .program} (h : b.programs.contains program = true)
    (width height : Nat) : ¬ (b.perform (.start program width height)).value.2.AtRest := by
  rw [value_perform_start h]
  exact fun hrest => not_closes_concat rfl _ hrest.closes

/-- Ending a pass leaves none in progress, whether there was one or not. -/
theorem atRest_finish (b : Headless α) : (b.perform .finish).value.2.AtRest :=
  ⟨closes_concat rfl rfl _, fun _ _ _ _ => refuses_iff.2 rfl⟩

/-- A program is there once it is made. -/
theorem contains_of_compile {vertex fragment : String} {program : Handle .program} (hb : b.Sound)
    (h : (b.perform (.compile vertex fragment)).value = (.ok program, b')) :
    b'.programs.contains program = true := by
  simp only [perform, compile, Logged.value_pure] at h
  split at h
  · cases h
  · cases h
    have hmem : (b.programs.insert ()).1 ∈ (b.programs.insert ()).2.handles :=
      (Slots.handles_insert hb.programs ()).mem_iff.2 (List.mem_cons_self ..)
    rw [Slots.contains_iff, (hb.programs.insert ()).odd _ hmem]
    exact hmem

end Headless

end Colloquy.Render
