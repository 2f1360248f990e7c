import Colloquy.Proofs.Dialogue.Labels
import Colloquy.Proofs.Play.Custody
import Colloquy.Proofs.Play.Drawing
import Colloquy.Proofs.Script.Reprint
import Colloquy.Proofs.Typeset.Empty

/-!
# What is left out is refused

A frame leaves out the lines that are empty.  Where a cluster is made of each character in the
pass, with spaces and tabs for spaces, it draws nothing of a choice exactly if the choice is
refused, as long as there is no key.  With the key nothing is refused, and of all choices only
those are left out whose label is the lock marker (`leaves_out_refused`).

Drawing and confirming look for the marker each in its own way, and in rules that each holds
for itself.  The rules are the same since no input changes either (`Plays.serveAll`).  What a
script has for a label is not blank, so a label that is shown is seen.
-/

namespace Colloquy.Play.Mode

open Colloquy.Dialogue Colloquy.Render Colloquy.Script Colloquy.Typeset

variable {S α : Type}

/-! ## Playing a graph -/

/-- A mode plays a graph with some settings. -/
structure Plays (settings : Settings α) (graph : Graph) (m : Mode S α) : Prop where
  /-- The dialogue is the graph with the rules of the settings. -/
  dialogue : m.dialogue = ⟨graph, settings.gating⟩
  /-- The settings are those. -/
  settings : m.settings = settings

theorem plays_of_ofParts {settings : Settings α} {surface : S} {graph : Graph}
    {scene : Asset.Scene} {samples : List Asset.Sample} {m : Mode S α}
    (h : (ofParts settings surface graph scene samples).value = .ok m) :
    Plays settings graph m := by
  rw [eq_of_ofParts h]
  exact ⟨rfl, rfl⟩

/-- Selecting and confirming a choice is refused if the choice is locked and there is no key. -/
theorem Plays.refused_iff {settings : Settings α} {graph : Graph} {m : Mode S α}
    (h : Plays settings graph m) (hf : m.cursor.finished = false) {index : Nat} {node : Node}
    {choice : Choice} (hn : m.dialogue.node? m.cursor = some node)
    (hc : node.choices[index]? = some choice) :
    (m.dialogue.confirm (m.dialogue.select m.cursor index)).value.1 = .locked ↔
      settings.gating.isLocked choice.label = true ∧ m.cursor.key = false := by
  obtain ⟨hi, -⟩ := List.getElem?_eq_some_iff.1 hc
  have hpicks : Picks m.dialogue { m.cursor with selected := index } node choice := ⟨hf, hn, hc⟩
  rw [select_of_lt hn hi, hpicks.confirm_eq_locked_iff, isOpen_iff, not_not, h.dialogue]

variable [Surface S α] [Zero α] [Add α] [Sub α] [Mul α] [Div α] [NatCast α] [LE α] [DecidableLE α]

/-- An input changes neither the dialogue nor the settings. -/
theorem Plays.serve {settings : Settings α} {graph : Graph} {m : Mode S α}
    (h : Plays settings graph m) (input : Input α) :
    Plays settings graph (m.serve input).value := by
  cases input with
  | event viewport event =>
      obtain ⟨holds, hhandle⟩ := m.exists_handle_eq viewport event
      show Plays settings graph (m.handle viewport event).value.2
      rw [hhandle]
      exact ⟨h.dialogue, h.settings⟩
  | frame width height => exact ⟨h.dialogue, h.settings⟩

theorem Plays.serveAll {settings : Settings α} {graph : Graph} (inputs : List (Input α)) :
    ∀ {m : Mode S α}, Plays settings graph m → Plays settings graph (m.serveAll inputs).value := by
  induction inputs with
  | nil => exact fun h => h
  | cons input inputs ih =>
      intro m h
      rw [Mode.serveAll, List.foldlM_cons, Logged.value_bind]
      exact ih (h.serve input)

/-! ## What is left out -/

/-- A frame draws nothing of a choice. -/
def LeavesOut (m : Mode S α) (viewport index : Nat) : Prop :=
  ∀ line, (Part.choice index, line) ∉ m.inked viewport

/-- A choice is left out if all lines of its label are empty. -/
theorem leavesOut_iff {m : Mode S α} {viewport index : Nat} {node : Node} {choice : Choice}
    (hn : m.dialogue.node? m.cursor = some node) (hc : node.choices[index]? = some choice) :
    m.LeavesOut viewport index ↔
      ∀ line ∈ (Surface.shaper m.surface).wrap
        (m.settings.gating.shown m.cursor.key choice.label)
        (m.settings.metrics.choiceWidth viewport), line = "" := by
  have hlayout : m.layout? viewport = some (Layout.ofNode node (Surface.shaper m.surface)
      m.settings.metrics viewport m.settings.gating m.cursor.key) := by
    rw [layout?, hn]
    rfl
  obtain ⟨row, hrow, hlines⟩ := Layout.exists_row_of_choice node (Surface.shaper m.surface)
    m.settings.metrics viewport m.settings.gating m.cursor.key hc
  rw [← hlines, List.forall_mem_map]
  constructor
  · intro hout line hline
    by_contra hne
    exact hout line (mem_inked_iff.2 (.choice hlayout hrow hline hne))
  · intro hall line hline
    cases mem_inked_iff.1 hline with
    | choice hlayout' hrow' hline' hne =>
        cases hlayout.symm.trans hlayout'
        cases hrow.symm.trans hrow'
        exact hne (hall line hline')

/-- The spaces of a line. -/
def isGap (c : Char) : Bool := c == ' ' || c == '\t'

theorem isBlank_of_isGap {c : Char} (h : isGap c = true) : Text.isBlank c = true := by
  rw [isGap, Bool.or_eq_true, beq_iff_eq, beq_iff_eq] at h
  rcases h with rfl | rfl
  · decide
  · decide

/-- What is left out is what is refused.  Take a mode that was made of the graph of a script,
any events and frames, and a choice of the node that is reached, and draw a frame on a surface
that makes a cluster of each character in the pass.  If it does not fail it draws the picture of
the mode in the pass.  Without the key nothing in it belongs to the choice exactly if confirming
the choice is refused.  With the key that is never refused, and nothing belongs to the choice
exactly if its label is the marker. -/
theorem leaves_out_refused {source : String} {graph : Graph}
    (hread : (read source).value = .ok graph) {settings : Settings α} {surface : S}
    {scene : Asset.Scene} {samples : List Asset.Sample} {start : Mode S α}
    (hmade : (ofParts settings surface graph scene samples).value = .ok start)
    (inputs : List (Input α)) :
    let m := (start.serveAll inputs).value
    m.cursor.finished = false →
    ∀ node, m.dialogue.node? m.cursor = some node →
    ∀ (index : Nat) (choice : Choice), node.choices[index]? = some choice → ∀ width height,
      let drawn := m.inPass width height
      (Surface.shaper drawn.surface).Charwise isGap →
      ((m.draw width height).value.1 = .ok () →
        m.strokes width height = .clear settings.palette.clear :: .start width height ::
          ((drawn.picture width).map textStroke ++ [.finish])) ∧
      let outcome := (m.dialogue.confirm (m.dialogue.select m.cursor index)).value.1
      (m.cursor.key = false → (drawn.LeavesOut width index ↔ outcome = .locked)) ∧
      (m.cursor.key = true → outcome ≠ .locked ∧
        (drawn.LeavesOut width index ↔
          choice.label = settings.gating.lockMarker ∧ settings.gating.lockMarker ≠ "")) := by
  intro m hf node hn index choice hc width height drawn hshaper
  have hplays : Plays settings graph m := Plays.serveAll inputs (plays_of_ofParts hmade)
  have hlabel : IsWord choice.label := by
    have hmem : node ∈ graph.nodes := by
      rw [hplays.dialogue] at hn
      exact Graph.mem_of_get? hn
    exact (((writable_of_read hread).nodes node hmem).choices choice
      (List.mem_of_getElem? hc)).label
  have hspaces : drawn.LeavesOut width index ↔
      ∀ c ∈ (settings.gating.shown m.cursor.key choice.label).toList, isGap c = true := by
    have hone := fun hnewline => hlabel.oneLine
      ((Gating.shown_isInfix settings.gating m.cursor.key choice.label).subset hnewline)
    have hsettings : drawn.settings = settings := hplays.settings
    rw [leavesOut_iff (m := drawn) hn hc, hsettings]
    exact hshaper.wrap_eq_empty_iff hone _
  have hrefused := hplays.refused_iff hf hn hc
  refine ⟨fun hok => ?_, fun hkey => ?_, fun hkey => ⟨?_, ?_⟩⟩
  · rw [strokes_of_ok hok, hplays.settings]
  · rw [hspaces, hrefused, hkey, and_iff_left rfl]
    exact Gating.shown_spaces_iff_isLocked (fun _ => isBlank_of_isGap) hlabel.nonempty
      hlabel.trimmed
  · rw [ne_eq, hrefused, hkey]
    exact fun h => Bool.noConfusion h.2
  · rw [hspaces, hkey]
    exact Gating.shown_spaces_iff_eq_lockMarker (fun _ => isBlank_of_isGap) hlabel.nonempty
      hlabel.trimmed

/-- A hall with a locked way out.  The key lies in a cellar, where a way out has no name. -/
def cellarScript : String :=
  "state: hall\ntext:\n<<<\nA hall.\n>>>\noption: [LOCKED]Out -> END\noption: Search -> end\n" ++
    "state: end\ntext:\n<<<\nA key.\n>>>\noption: [LOCKED]Out -> END\noption: [LOCKED] -> hall\n"

/-- The graph of that script. -/
def cellarGraph : Graph where
  start := "hall"
  nodes := [
    { id := "hall", text := "A hall.", choices := [⟨"[LOCKED]Out", "END"⟩, ⟨"Search", "end"⟩] },
    { id := "end", text := "A key.", choices := [⟨"[LOCKED]Out", "END"⟩, ⟨"[LOCKED]", "hall"⟩] }]

/-- The mode made of the graph. -/
def cellar : Mode (Recorder ℚ) ℚ where
  settings := { metrics := ⟨1, 1, 10, 4, 3, 1⟩ }
  surface := { shaper := perChar (fun _ => 1) isGap }
  dialogue := ⟨cellarGraph, {}⟩
  cursor := { state := "hall" }
  scene := ⟨[default]⟩
  samples := []

/-- In the hall the way out is left out and refused.  In the cellar it is neither.  The way
without a name is left out there, though it could be taken. -/
theorem leaves_out_refused_cellar :
    let m := (cellar.serveAll [.event 6 (.key .down), .event 6 (.key .enter)]).value
    let hallDrawn := cellar.inPass 6 6
    let drawn := m.inPass 6 6
    (read cellarScript).value = .ok cellarGraph ∧
    (ofParts cellar.settings cellar.surface cellarGraph cellar.scene []).value = .ok cellar ∧
    cellar.strokes 6 6 = .clear cellar.settings.palette.clear :: .start 6 6 ::
      ((hallDrawn.picture 6).map textStroke ++ [.finish]) ∧
    hallDrawn.LeavesOut 6 0 ∧ ¬ hallDrawn.LeavesOut 6 1 ∧
    m.cursor.key = true ∧ ¬ drawn.LeavesOut 6 0 ∧ drawn.LeavesOut 6 1 ∧
    (m.dialogue.confirm (m.dialogue.select m.cursor 1)).value.1 ≠ .locked := by
  intro m hallDrawn drawn
  have hread : (read cellarScript).value = .ok cellarGraph := by decide +kernel
  have hmade : (ofParts cellar.settings cellar.surface cellarGraph cellar.scene []).value =
      .ok cellar := rfl
  have hshaper : (perChar (fun _ => (1 : ℚ)) isGap).Charwise isGap :=
    charwise_perChar (fun _ => 1) isGap
  have hhall := leaves_out_refused hread hmade [] rfl _ rfl
  have hcellar := leaves_out_refused hread hmade
    [.event 6 (.key .down), .event 6 (.key .enter)] (by decide) _ rfl
  have hkey : m.cursor.key = true := by decide
  obtain ⟨hstrokes, hout, -⟩ := hhall 0 _ rfl 6 6 hshaper
  obtain ⟨-, hsearch, -⟩ := hhall 1 _ rfl 6 6 hshaper
  obtain ⟨-, -, hout'⟩ := hcellar 0 _ rfl 6 6 hshaper
  obtain ⟨-, -, hunnamed⟩ := hcellar 1 _ rfl 6 6 hshaper
  refine ⟨hread, hmade, ?_, (hout rfl).2 ?_, fun h => ?_, hkey, fun h => ?_, ?_, ?_⟩
  · exact hstrokes (draw_of_faultless (m := cellar) ⟨rfl, fun _ => rfl⟩ 6 6).1
  · decide
  · exact absurd ((hsearch rfl).1 h) (by decide)
  · exact absurd ((hout' hkey).2.1 h).1 (by decide)
  · exact (hunnamed hkey).2.2 (by decide)
  · simpa only [m] using (hunnamed hkey).1

end Colloquy.Play.Mode
