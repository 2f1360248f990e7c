import Colloquy.Proofs.Render.Passes
import Colloquy.Proofs.Render.Store

/-!
# The history of a headless backend

The *history* of a backend is all it has ever written down, whether it was taken since or is
still there (`Headless.history`).  An act that asks for something to be drawn adds the command
of its request, unless it is refused, and no other act adds anything (`Headless.history_eq`).
So a command of the history leads back to the act that wrote it down, and to the backend as it
was then (`Headless.exists_of_written`).

The program of the open pass is that of the last start in the history, if no end comes behind
it.  Each act keeps this (`Headless.InStep`), since taking commands changes neither the history
nor the pass.  Programs may be gone by the time a quad is drawn, as nobody asks for them then.
-/

namespace Colloquy.Render

open Logged

variable {α : Type}

/-- The command that a request is written down as. -/
def Request.command? : Request α → Option (Command α)
  | clear color => some (.clear color)
  | start program width height => some (.start program width height)
  | draw _ texture quad color => some (.quad texture quad color)
  | finish => some .finish
  | _ => none

/-- Whether the last start or end of a pass is a start with a program. -/
def StartsLast (program : Handle .program) (commands : List (Command α)) : Prop :=
  ∃ front width height back, commands = front ++ .start program width height :: back ∧
    ∀ c ∈ back, c.starts = false ∧ c.ends = false

section StartsLast

variable {program : Handle .program} {commands : List (Command α)} {c : Command α}

theorem not_startsLast_nil : ¬ StartsLast program ([] : List (Command α)) := by
  rintro ⟨front, width, height, back, he, -⟩
  cases front <;> cases he

/-- One command more either is the start, or stands behind it and makes no difference. -/
theorem startsLast_concat :
    StartsLast program (commands ++ [c]) ↔ (∃ width height, c = .start program width height) ∨
      StartsLast program commands ∧ c.starts = false ∧ c.ends = false := by
  constructor
  · rintro ⟨front, width, height, back, he, hback⟩
    rcases List.eq_nil_or_concat' back with rfl | ⟨back, d, rfl⟩
    · cases (List.append_inj' he rfl).2
      exact .inl ⟨width, height, rfl⟩
    · rw [← List.cons_append, ← List.append_assoc] at he
      obtain ⟨hcommands, hlast⟩ := List.append_inj' he rfl
      cases hlast
      obtain ⟨hback, hc⟩ := List.forall_mem_append.1 hback
      exact .inr ⟨⟨front, width, height, back, hcommands, hback⟩, hc c (List.mem_singleton_self c)⟩
  · rintro (⟨width, height, rfl⟩ | ⟨⟨front, width, height, back, rfl, hback⟩, hc⟩)
    · exact ⟨commands, width, height, [], rfl, by simp⟩
    · refine ⟨front, width, height, back ++ [c], by simp, List.forall_mem_append.2 ⟨hback, ?_⟩⟩
      simpa using hc

end StartsLast

namespace Headless

variable {b : Headless α} {a : Act α}

/-! ## What is written down -/

/-- The command that an act writes down. -/
def written? (b : Headless α) : Act α → Option (Command α)
  | .ask r => if r.fault? (b.perform r).value.1 = none then r.command? else none
  | .take => none

/-- The commands that acts write down. -/
def written (b : Headless α) : List (Act α) → List (Command α)
  | [] => []
  | a :: acts => (b.written? a).toList ++ written (b.act a) acts

/-- The commands that an act takes. -/
def taken (b : Headless α) : Act α → List (Command α)
  | .ask _ => []
  | .take => b.take.1

/-- The commands that acts take and those that are there after them. -/
def history (b : Headless α) : List (Act α) → List (Command α)
  | [] => b.commands
  | a :: acts => b.taken a ++ history (b.act a) acts

/-- What an act adds to the history, and the program of the pass after it. -/
structure Writes (b : Headless α) (a : Act α) (c : Option (Command α))
    (active : Option (Handle .program)) : Prop where
  written : b.written? a = c
  /-- It comes behind all that was there. -/
  commands : b.taken a ++ (b.act a).commands = b.commands ++ c.toList
  active : (b.act a).active = active

/-- What an act does with commands and the pass. -/
inductive Writing (b : Headless α) (a : Act α) : Prop where
  /-- The screen is filled. -/
  | clears (color : Rgba) (hask : a = .ask (.clear color))
      (hwrites : b.Writes a (some (.clear color)) b.active)
  /-- A pass starts with a program that is there. -/
  | starts (program : Handle .program) (width height : Nat)
      (hask : a = .ask (.start program width height))
      (hprogram : b.programs.contains program = true)
      (hwrites : b.Writes a (some (.start program width height)) (some program))
  /-- A quad is drawn in a pass, with a buffer and a texture that are there. -/
  | draws (buffer : Handle .buffer) (texture : Handle .texture) (quad : Quad α) (color : Rgb)
      (hask : a = .ask (.draw buffer texture quad color)) (hpass : b.active.isSome = true)
      (hbuffer : b.buffers.contains buffer = true) (htexture : b.textures.contains texture = true)
      (hwrites : b.Writes a (some (.quad texture quad color)) b.active)
  /-- The pass ends. -/
  | finishes (hask : a = .ask .finish) (hwrites : b.Writes a (some .finish) none)
  /-- Nothing is written down. -/
  | rests (hwrites : b.Writes a none b.active)

/-- A request that is refused is not written down. -/
theorem writes_of_fault {r : Request α} {fault : BackendFault}
    (h : r.fault? (b.perform r).value.1 = some fault) : b.Writes (.ask r) none b.active where
  written := by simp [written?, h]
  commands := by
    rw [act, perform_of_fault r h]
    simp [taken]
  active := by rw [act, perform_of_fault r h]

theorem writing (b : Headless α) (a : Act α) : b.Writing a := by
  cases a with
  | take => exact .rests ⟨rfl, rfl, rfl⟩
  | ask r =>
      cases hfault : r.fault? (b.perform r).value.1 with
      | some fault => exact .rests (writes_of_fault hfault)
      | none =>
          have hwritten : b.written? (.ask r) = r.command? := by rw [written?, if_pos hfault]
          cases r with
          | compile vertex fragment =>
              simp only [perform, compile, value_pure] at hfault
              split_ifs at hfault with hblank
              · cases hfault
              · refine .rests ⟨hwritten, ?_, ?_⟩
                · simp [taken, act, perform, compile, hblank]
                · simp [act, perform, compile, hblank]
          | upload bitmap =>
              simp only [perform, upload, value_pure] at hfault
              split_ifs at hfault with hfits
              · refine .rests ⟨hwritten, ?_, ?_⟩
                · simp [taken, act, perform, upload, hfits]
                · simp [act, perform, upload, hfits]
              · cases hfault
          | dropProgram | makeBuffer | dropBuffer | dropTexture =>
              exact .rests ⟨hwritten, (List.append_nil _).symm, rfl⟩
          | clear color => exact .clears color rfl ⟨hwritten, rfl, rfl⟩
          | finish => exact .finishes rfl ⟨hwritten, rfl, rfl⟩
          | start program width height =>
              simp only [perform, start, value_pure] at hfault
              split_ifs at hfault with hprogram
              · have hstart := value_perform_start hprogram width height
                refine .starts program width height rfl hprogram ⟨hwritten, ?_, ?_⟩
                · rw [act, hstart]
                  rfl
                · rw [act, hstart]
                  rfl
              · cases hfault
          | draw buffer texture quad color =>
              simp only [perform, draw, value_pure] at hfault
              split_ifs at hfault with hpass hbuffer htexture
              · cases hfault
              · cases hfault
              · cases hfault
              · have hopen : b.active.isSome = true := by
                  simpa [Option.isSome_iff_ne_none] using hpass
                have hthere : b.buffers.contains buffer = true := by simpa using hbuffer
                have hstored : b.textures.contains texture = true := by simpa using htexture
                have hdraw := value_perform_draw hopen hthere hstored quad color
                refine .draws buffer texture quad color rfl hopen hthere hstored
                  ⟨hwritten, ?_, ?_⟩
                · rw [act, hdraw]
                  rfl
                · rw [act, hdraw]
                  rfl

/-! ## Runs -/

theorem Writing.commands (h : b.Writing a) :
    b.taken a ++ (b.act a).commands = b.commands ++ (b.written? a).toList := by
  cases h with
  | clears _ _ h | starts _ _ _ _ _ h | draws _ _ _ _ _ _ _ _ h | finishes _ h | rests h =>
      rw [h.commands, h.written]

/-- The history is what was there in the beginning and then one command for each act that writes
one down. -/
theorem history_eq (b : Headless α) (acts : List (Act α)) :
    b.history acts = b.commands ++ b.written acts := by
  induction acts generalizing b with
  | nil => rw [history, written, List.append_nil]
  | cons a acts ih =>
      rw [history, ih, ← List.append_assoc, (b.writing a).commands, written, List.append_assoc]

/-- A command leads back to the act that wrote it down. -/
theorem exists_of_written {acts : List (Act α)} {front back : List (Command α)} {c : Command α}
    (h : b.written acts = front ++ c :: back) :
    ∃ before a after, acts = before ++ a :: after ∧ b.written before = front ∧
      (b.run before).written? a = some c := by
  induction acts generalizing b front with
  | nil => cases front <;> cases h
  | cons a acts ih =>
      rw [written] at h
      cases ha : b.written? a with
      | none =>
          rw [ha, Option.toList_none, List.nil_append] at h
          obtain ⟨before, a', after, rfl, hfront, hc⟩ := ih h
          refine ⟨a :: before, a', after, rfl, ?_, hc⟩
          rw [written, ha, Option.toList_none, List.nil_append, hfront]
      | some d =>
          rw [ha, Option.toList_some, List.singleton_append] at h
          cases front with
          | nil =>
              cases h
              exact ⟨[], a, acts, rfl, rfl, ha⟩
          | cons e front =>
              rw [List.cons_append] at h
              obtain ⟨rfl, hrest⟩ := List.cons.inj h
              obtain ⟨before, a', after, rfl, hfront, hc⟩ := ih hrest
              refine ⟨a :: before, a', after, rfl, ?_, hc⟩
              rw [written, ha, hfront]
              rfl

/-! ## The open pass -/

/-- Whether the open pass is that of the last start among commands, without an end behind it. -/
def InStep (b : Headless α) (commands : List (Command α)) : Prop :=
  ∀ program, b.active = some program ↔ StartsLast program commands

theorem inStep_new : InStep ({} : Headless α) [] := fun _ =>
  iff_of_false nofun not_startsLast_nil

theorem InStep.act {commands : List (Command α)} (h : b.InStep commands) (a : Act α) :
    (b.act a).InStep (commands ++ (b.written? a).toList) := by
  intro program
  cases b.writing a with
  | clears color _ hwrites =>
      rw [hwrites.active, hwrites.written, h]
      simp [startsLast_concat, Command.starts, Command.ends]
  | starts program' width height _ _ hwrites =>
      rw [hwrites.active, hwrites.written]
      simp [startsLast_concat, Command.starts]
  | draws buffer texture quad color _ _ _ _ hwrites =>
      rw [hwrites.active, hwrites.written, h]
      simp [startsLast_concat, Command.starts, Command.ends]
  | finishes _ hwrites =>
      rw [hwrites.active, hwrites.written]
      simp [startsLast_concat, Command.ends]
  | rests hwrites =>
      rw [hwrites.active, hwrites.written, h]
      simp

theorem InStep.run {commands : List (Command α)} (h : b.InStep commands) (acts : List (Act α)) :
    (b.run acts).InStep (commands ++ b.written acts) := by
  induction acts generalizing b commands with
  | nil => rwa [written, List.append_nil]
  | cons a acts ih =>
      rw [written, ← List.append_assoc]
      exact ih (h.act a)

/-! ## Live resources -/

/-- Whether a resource is there after acts: one of them has made it, and none has released it
since. -/
def Live (b : Headless α) (acts : List (Act α)) (x : Resource) : Prop :=
  ∃ front a back, acts = front ++ a :: back ∧ (b.run front).made? a = some x ∧
    ∀ a' ∈ back, a'.released? ≠ some x

section Live

variable {kind : Kind} {h : Handle kind} {acts : List (Act α)}

/-- A resource that is found after acts was made by one of them or found before, and has not
been released since. -/
theorem live_or_of_get?_run (hb : b.Sound) (hread : h.asRead = h)
    (hget : ((b.run acts).store kind).get? h ≠ none) :
    b.Live acts ⟨kind, h⟩ ∨
      (b.store kind).get? h ≠ none ∧ ∀ a ∈ acts, a.released? ≠ some ⟨kind, h⟩ := by
  induction acts generalizing b with
  | nil => exact .inr ⟨hget, by simp⟩
  | cons a acts ih =>
      rcases ih (hb.act a) hget with ⟨front, a', back, rfl, hmade, hback⟩ | ⟨hact, hacts⟩
      · exact .inl ⟨a :: front, a', back, rfl, hmade, hback⟩
      by_cases hmade : b.made? a = some ⟨kind, h⟩
      · exact .inl ⟨[], a, acts, rfl, hmade, hacts⟩
      · refine .inr ⟨fun hnone => ?_, List.forall_mem_cons.2 ⟨fun hreleased => ?_, hacts⟩⟩
        · exact hact (get?_act_of_unmade hb hread hnone hmade)
        · exact hact (get?_act_of_released hb hreleased)

/-- What is found in a backend that was new in the beginning is what is live. -/
theorem contains_run_iff :
    ((run {} acts).store kind).contains h = true ↔
      Live ({} : Headless α) acts ⟨kind, h.asRead⟩ := by
  have hread : h.asRead.asRead = h.asRead := by
    rw [Handle.asRead, Handle.asRead, UInt32.or_assoc, UInt32.or_self]
  rw [Slots.contains, Option.isSome_iff_ne_none, ← Slots.get?_asRead]
  constructor
  · intro hget
    refine (live_or_of_get?_run sound_new hread hget).resolve_right fun hnew => hnew.1 ?_
    rw [store_new, Slots.get?_empty]
  · rintro ⟨front, a, back, rfl, hmade, hback⟩
    have hfront := sound_new.run front
    obtain ⟨-, c, -, hget⟩ := get?_act_of_made hfront hmade
    rw [run_append, run_cons, get?_run_of_unreleased (hfront.act a) hread hget hback]
    exact Option.some_ne_none c

end Live

/-- A new backend writes down one command for each act that asks for something to be drawn and is
not refused, in the order of the acts, and it stays in the history when it is taken.  A pass is
started with a program that is live then.  A quad is drawn with a buffer and a texture that are
live then, and the last start or end of a pass before it is a start. -/
theorem history_in_passes (acts : List (Act α)) :
    history {} acts = written {} acts ∧
      ∀ front c back, history ({} : Headless α) acts = front ++ c :: back →
        ∃ before r after, acts = before ++ .ask r :: after ∧ history {} before = front ∧
          r.command? = some c ∧ r.fault? ((run {} before).perform r).value.1 = none ∧
          (∀ program width height, c = .start program width height →
            Live ({} : Headless α) before ⟨.program, program.asRead⟩) ∧
          ∀ texture quad color, c = .quad texture quad color →
            (∃ program, StartsLast program front) ∧
              Live ({} : Headless α) before ⟨.texture, texture.asRead⟩ ∧
              ∃ buffer, r = .draw buffer texture quad color ∧
                Live ({} : Headless α) before ⟨.buffer, buffer.asRead⟩ := by
  have hhistory : ∀ acts : List (Act α), history {} acts = written {} acts :=
    fun acts => history_eq {} acts
  refine ⟨hhistory acts, fun front c back hacts => ?_⟩
  rw [hhistory] at hacts
  obtain ⟨before, a, after, rfl, rfl, hc⟩ := exists_of_written hacts
  obtain ⟨r, rfl, hcommand, hfault⟩ : ∃ r, a = .ask r ∧ r.command? = some c ∧
      r.fault? ((run {} before).perform r).value.1 = none := by
    cases a with
    | take => cases hc
    | ask r =>
        rw [written?] at hc
        split at hc
        · exact ⟨r, rfl, hc, ‹_›⟩
        · cases hc
  refine ⟨before, r, after, rfl, hhistory before, hcommand, hfault, ?_, ?_⟩
  · rintro program width height rfl
    cases (run {} before).writing (.ask r) with
    | starts program' width' height' hask hprogram _ =>
        cases hask
        cases hcommand
        exact contains_run_iff.1 hprogram
    | clears _ _ h | draws _ _ _ _ _ _ _ _ h | finishes _ h | rests h =>
        cases h.written.symm.trans hc
  · rintro texture quad color rfl
    cases (run {} before).writing (.ask r) with
    | draws buffer texture' quad' color' hask hpass hbuffer htexture _ =>
        cases hask
        cases hcommand
        obtain ⟨program, hprogram⟩ := Option.isSome_iff_exists.1 hpass
        refine ⟨⟨program, ?_⟩, contains_run_iff.1 htexture, buffer, rfl, contains_run_iff.1 hbuffer⟩
        exact (inStep_new.run before program).1 hprogram
    | clears _ _ h | starts _ _ _ _ _ h | finishes _ h | rests h =>
        cases h.written.symm.trans hc

/-- A pass started twice, the second time with another program.  Its program is gone before the
quad is drawn, and so are the commands up to there.  The quads before and after the pass are
refused, and so is a start with the program that is gone. -/
def startedTwice : List (Act Nat) :=
  [.ask (.compile "v" "f"), .ask (.compile "v" "f"), .ask .makeBuffer, .ask (.upload ⟨1, 1, [9]⟩),
    .ask (.draw ⟨1, 1⟩ ⟨1, 1⟩ ⟨0, 0, 1, 1⟩ default), .ask (.start ⟨1, 1⟩ 8 8),
    .ask (.start ⟨1, 2⟩ 4 4), .take, .ask (.dropProgram ⟨1, 2⟩),
    .ask (.draw ⟨1, 1⟩ ⟨1, 1⟩ ⟨2, 2, 3, 3⟩ default), .ask .finish, .ask .finish,
    .ask (.draw ⟨1, 1⟩ ⟨1, 1⟩ ⟨4, 4, 5, 5⟩ default), .ask (.start ⟨1, 2⟩ 8 8)]

theorem history_in_passes_startedTwice :
    history {} startedTwice = [.start ⟨1, 1⟩ 8 8, .start ⟨1, 2⟩ 4 4] ++
        .quad ⟨1, 1⟩ ⟨2, 2, 3, 3⟩ default :: [.finish, .finish] ∧
      history {} startedTwice = written {} startedTwice ∧
      ∃ before r after, startedTwice = before ++ .ask r :: after ∧
        history {} before = [.start ⟨1, 1⟩ 8 8, .start ⟨1, 2⟩ 4 4] ∧
        (∃ program, StartsLast program (history {} before)) ∧
        Live {} before ⟨.texture, ⟨1, 1⟩⟩ := by
  have hquad : history {} startedTwice = [.start ⟨1, 1⟩ 8 8, .start ⟨1, 2⟩ 4 4] ++
      .quad ⟨1, 1⟩ ⟨2, 2, 3, 3⟩ default :: [.finish, .finish] := rfl
  obtain ⟨hwritten, hcommands⟩ := history_in_passes startedTwice
  obtain ⟨before, r, after, hacts, hfront, -, -, -, hdraws⟩ := hcommands _ _ _ hquad
  obtain ⟨hpass, htexture, -⟩ := hdraws ⟨1, 1⟩ ⟨2, 2, 3, 3⟩ default rfl
  exact ⟨hquad, hwritten, before, r, after, hacts, hfront, hfront ▸ hpass, htexture⟩

end Headless

end Colloquy.Render
