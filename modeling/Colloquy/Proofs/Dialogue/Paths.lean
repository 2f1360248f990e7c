import Colloquy.Proofs.Dialogue.Refinement
import Colloquy.Proofs.Script.Reach

/-!
# What the check of a graph says about play

A player only ever sees nodes on paths from the start (`onPath_of_canStand`), so
the nodes that the check reports as unreachable are never seen.  They are just
the nodes that no rules let a player see (`unreachable_iff_never_seen`), so the
word that the check is given makes no difference.  Two questions go further.

*Can a player get lost?*  Not where the start names a node and every choice that
leads nowhere is one of an unreachable node (`isSome_node?_run`).

*Can a player get everywhere else?*  With nothing locked a path can be played
unless one of its choices has the end word for its target.  The check follows
such a choice where the end word names a node, and the player does not.  So
every node that is not reported can be seen just when the end word is the start,
names no node or is reported itself (`unreported_seen_iff`).
-/

namespace Colloquy.Dialogue

open Colloquy.Script

/-! ## Nodes that are seen -/

/-- The node a dialogue stands at is on a path from the start. -/
theorem onPath_of_canStand {d : Dialogue} {s : Standing} (h : CanStand d s) :
    ∀ {node : Node}, d.graph.get? s.state = some node → d.graph.OnPath node := by
  induction h with
  | start =>
      intro node hn
      exact ⟨node, hn, .here node⟩
  | step _ hst ih =>
      intro node hn
      cases hst with
      | stop _ _ => exact ih hn
      | leave _ _ _ _ => exact ih hn
      | go hm hc _ _ =>
          obtain ⟨first, hfirst, hleads⟩ := ih hm
          exact ⟨first, hfirst, hleads.choice hc hn⟩

/-- Where only unreachable nodes have choices that lead nowhere, and the start
names a node, a dialogue always stands at a node. -/
theorem exists_node_of_canStand {d : Dialogue}
    (hstart : ∀ start, .missingStart start ∉ d.graph.issues d.rules.endWord)
    (hdangling : ∀ state option target,
      .danglingTarget state option target ∈ d.graph.issues d.rules.endWord →
        .unreachable state ∈ d.graph.issues d.rules.endWord)
    {s : Standing} (h : CanStand d s) : ∃ node, d.graph.get? s.state = some node := by
  induction h with
  | start =>
      by_contra hnone
      have hmissing : d.graph.get? d.graph.start = none :=
        Option.eq_none_iff_forall_ne_some.2 (fun node hn => hnone ⟨node, hn⟩)
      exact hstart _ (Graph.missingStart_mem_issues.2 ⟨rfl, hmissing⟩)
  | step hs hst ih =>
      cases hst with
      | stop _ _ => exact ih
      | leave _ _ _ _ => exact ih
      | @go _ _ node choice hm hc _ hw =>
          by_contra hnone
          have hmissing : d.graph.get? choice.next = none :=
            Option.eq_none_iff_forall_ne_some.2 (fun target ht => hnone ⟨target, ht⟩)
          obtain ⟨i, hi⟩ := List.mem_iff_getElem?.1 hc
          have hreport := hdangling node.id i choice.next (Graph.danglingTarget_mem_issues.2
            ⟨node, Graph.mem_of_get? hm, rfl, choice, hi, rfl, hw, hmissing⟩)
          have hpath := onPath_of_canStand hs hm
          exact (Graph.unreachable_mem_issues.1 hreport).1
            (Graph.get?_and_mem_reached_of_onPath hpath).2

/-- A player never gets lost in a graph whose start names a node and in which only
unreachable nodes have choices that lead nowhere. -/
theorem isSome_node?_run (d : Dialogue)
    (hstart : ∀ start, .missingStart start ∉ d.graph.issues d.rules.endWord)
    (hdangling : ∀ state option target,
      .danglingTarget state option target ∈ d.graph.issues d.rules.endWord →
        .unreachable state ∈ d.graph.issues d.rules.endWord) (actions : List Action) :
    (d.node? (d.run d.begin actions)).isSome = true := by
  obtain ⟨node, hn⟩ := exists_node_of_canStand hstart hdangling (canStand_run d actions)
  exact Option.isSome_iff_exists.2 ⟨node, hn⟩

/-- A round trip with a loop, a way out and a locked way that leads back.  Only a
cellar that nobody gets to has a way into the void. -/
def roundTrip : Dialogue where
  graph :=
    { start := "hall"
      nodes := [
        ⟨"hall", "", [⟨"[LOCKED]Up", "attic"⟩, ⟨"Stay", "hall"⟩, ⟨"Out", "END"⟩, ⟨"Look", "end"⟩]⟩,
        ⟨"end", "", [⟨"Back", "hall"⟩]⟩,
        ⟨"attic", "", [⟨"Down", "hall"⟩]⟩,
        ⟨"cellar", "", [⟨"Dig", "void"⟩, ⟨"Climb", "hall"⟩]⟩] }

theorem isSome_node?_run_roundTrip :
    .danglingTarget "cellar" 0 "void" ∈ roundTrip.graph.issues "END" ∧
      ∀ actions, (roundTrip.node? (roundTrip.run roundTrip.begin actions)).isSome = true := by
  have hissues : roundTrip.graph.issues "END" =
      [.danglingTarget "cellar" 0 "void", .unreachable "cellar"] := by cbv
  refine ⟨by rw [hissues]; decide, isSome_node?_run roundTrip ?_ ?_⟩
  · intro start
    show _ ∉ roundTrip.graph.issues "END"
    simp [hissues]
  · intro state option target
    show _ ∈ roundTrip.graph.issues "END" → _ ∈ roundTrip.graph.issues "END"
    simp +contextual [hissues]

/-! ## Nodes that can be seen -/

theorem isOpen_of_lockMarker_eq_empty {rules : Gating} (h : rules.lockMarker = "") (key : Bool)
    (choice : Choice) : IsOpen rules key choice := by
  intro hl
  simp [Gating.isLocked, h] at hl

/-- With nothing locked a path can be played where the end word names the start
or no node of a path. -/
theorem exists_canStand_of_onPath {d : Dialogue} (hlock : d.rules.lockMarker = "")
    (hword : ∀ node, d.graph.get? d.rules.endWord = some node → d.graph.OnPath node →
      d.rules.endWord = d.graph.start) {node : Node} (h : d.graph.OnPath node) :
    ∃ key, CanStand d ⟨node.id, key, false⟩ := by
  obtain ⟨first, hfirst, hleads⟩ := h
  induction hleads with
  | here =>
      rw [Graph.id_of_get? hfirst]
      exact ⟨false, .start⟩
  | @choice m target choice hm hc ht ih =>
      rw [Graph.id_of_get? ht]
      by_cases he : choice.next = d.rules.endWord
      · -- the player stops at this choice, and the path starts anew behind it
        rw [he] at ht ⊢
        rw [hword target ht ⟨first, hfirst, hm.choice hc (he ▸ ht)⟩]
        exact ⟨false, .start⟩
      · obtain ⟨key, hstand⟩ := ih
        have hnode := (Graph.get?_and_mem_reached_of_onPath ⟨first, hfirst, hm⟩).1
        exact ⟨_, hstand.step (.go hnode hc (isOpen_of_lockMarker_eq_empty hlock key choice) he)⟩

/-- No choice leads to the state that the end word names. -/
theorem endWord_eq_start_of_canStand {d : Dialogue} {s : Standing} (h : CanStand d s)
    (hs : s.state = d.rules.endWord) : d.rules.endWord = d.graph.start := by
  induction h with
  | start => exact hs.symm
  | step _ hst ih =>
      cases hst with
      | stop _ _ => exact ih hs
      | leave _ _ _ _ => exact ih hs
      | go _ _ _ hw => exact absurd hs hw

/-- With nothing locked, every node that is not reported as unreachable can be
seen by selecting and confirming just when the end word is the start, names no
node or is reported as unreachable. -/
theorem unreported_seen_iff (d : Dialogue) (hlock : d.rules.lockMarker = "") :
    (∀ node ∈ d.graph.nodes, .unreachable node.id ∉ d.graph.issues d.rules.endWord →
      ∃ actions, (∀ delta, .move delta ∉ actions) ∧
        (d.run d.begin actions).state = node.id) ↔
    d.rules.endWord = d.graph.start ∨ d.graph.contains d.rules.endWord = false ∨
      .unreachable d.rules.endWord ∈ d.graph.issues d.rules.endWord := by
  constructor
  · intro hseen
    by_contra hnot
    rw [not_or, not_or, Bool.not_eq_false] at hnot
    obtain ⟨hstart, hnode, hreport⟩ := hnot
    obtain ⟨node, hn⟩ := Graph.contains_iff.1 hnode
    have hid := Graph.id_of_get? hn
    obtain ⟨actions, _, hrun⟩ := hseen node (Graph.mem_of_get? hn) (hid ▸ hreport)
    exact hstart (endWord_eq_start_of_canStand (canStand_run d actions) (hrun.trans hid))
  · intro hcases node hmem hreport
    have hword : ∀ node, d.graph.get? d.rules.endWord = some node → d.graph.OnPath node →
        d.rules.endWord = d.graph.start := by
      intro node hn hpath
      rcases hcases with hstart | hnone | hunreached
      · exact hstart
      · rw [Graph.not_contains_iff.1 hnone] at hn
        cases hn
      · exact absurd (Graph.mem_reached_iff.2 ⟨node, hn, hpath⟩)
          (Graph.unreachable_mem_issues.1 hunreached).1
    have hreached : node.id ∈ d.graph.reached := by
      by_contra hnot
      exact hreport (Graph.unreachable_mem_issues.2 ⟨hnot, node, hmem, rfl⟩)
    obtain ⟨target, ht, hpath⟩ := Graph.mem_reached_iff.1 hreached
    obtain ⟨key, hstand⟩ := exists_canStand_of_onPath hlock hword hpath
    obtain ⟨actions, hno, hrun⟩ := exists_picks_of_canStand hstand
    refine ⟨actions, hno, ?_⟩
    rw [← Graph.id_of_get? ht]
    exact congrArg Standing.state hrun

/-- A hall that the end word names and play starts in, and two rooms behind it. -/
def endHall : Dialogue where
  graph :=
    { start := "END"
      nodes := [
        ⟨"END", "", [⟨"Go", "a"⟩]⟩, ⟨"a", "", [⟨"Leave", "END"⟩, ⟨"Go", "b"⟩]⟩, ⟨"b", "", []⟩] }
  rules := { lockMarker := "" }

theorem unreported_seen_iff_endHall :
    endHall.rules.lockMarker = "" ∧
    ∀ node ∈ endHall.graph.nodes,
      .unreachable node.id ∉ endHall.graph.issues endHall.rules.endWord →
      ∃ actions, (∀ delta, .move delta ∉ actions) ∧
        (endHall.run endHall.begin actions).state = node.id :=
  ⟨rfl, (unreported_seen_iff endHall rfl).2 (.inl rfl)⟩

/-- A room, and a second one that the end word names. -/
def endRoom : Dialogue where
  graph := { start := "a", nodes := [⟨"a", "", [⟨"Leave", "END"⟩]⟩, ⟨"END", "", []⟩] }
  rules := { lockMarker := "" }

/-- The check reports nothing, but nobody ever sees the second room. -/
theorem endRoom_never_seen :
    endRoom.rules.lockMarker = "" ∧ endRoom.graph.issues endRoom.rules.endWord = [] ∧
      "END" ∈ endRoom.graph.nodes.map Node.id ∧
      ∀ actions, (endRoom.run endRoom.begin actions).state ≠ "END" := by
  refine ⟨rfl, by cbv, by decide, fun actions h => ?_⟩
  have hstart := endWord_eq_start_of_canStand (canStand_run endRoom actions) h
  exact absurd hstart (by decide)

/-! ## Nodes that are never seen -/

/-- A node that a run leads to is reached by the check. -/
theorem mem_reached_of_run {d : Dialogue} {node : Node} {actions : List Action}
    (hn : d.graph.get? (d.run d.begin actions).state = some node) :
    (d.run d.begin actions).state ∈ d.graph.reached :=
  Graph.mem_reached_iff.2 ⟨node, hn, onPath_of_canStand (canStand_run d actions) hn⟩

/-- Rules under which nothing is locked, and under which the dialogue ends where it
would start anew. -/
def openRules (g : Graph) : Gating := { lockMarker := "", endWord := g.start }

/-- Under open rules every node that the check reaches is seen by some player. -/
theorem exists_run_of_mem_reached {g : Graph} {state : String} (h : state ∈ g.reached) :
    ∃ actions, (run ⟨g, openRules g⟩ (begin ⟨g, openRules g⟩) actions).state = state := by
  obtain ⟨node, hn, hpath⟩ := Graph.mem_reached_iff.1 h
  obtain ⟨key, hstand⟩ := exists_canStand_of_onPath (d := ⟨g, openRules g⟩) rfl
    (fun _ _ _ => rfl) hpath
  obtain ⟨actions, hrun⟩ := exists_run_of_canStand hstand
  refine ⟨actions, ?_⟩
  rw [← Graph.id_of_get? hn]
  exact congrArg Standing.state hrun

/-- The nodes that the check of a graph reports as unreachable are just those that no
player sees, whatever the rules are.  The word that the check is given need not be
the end word of the rules. -/
theorem unreachable_iff_never_seen (g : Graph) (word state : String) :
    .unreachable state ∈ g.issues word ↔
      g.contains state = true ∧
        ∀ rules actions, (run ⟨g, rules⟩ (begin ⟨g, rules⟩) actions).state ≠ state := by
  rw [Graph.unreachable_mem_issues]
  constructor
  · rintro ⟨hreached, node, hmem, rfl⟩
    have hnode : g.contains node.id = true := List.any_eq_true.2 ⟨node, hmem, by simp⟩
    refine ⟨hnode, fun rules actions hrun => hreached ?_⟩
    obtain ⟨found, hfound⟩ := Graph.contains_iff.1 hnode
    rw [← hrun] at hfound ⊢
    exact mem_reached_of_run (d := ⟨g, rules⟩) hfound
  · rintro ⟨hnode, hnever⟩
    obtain ⟨node, hn⟩ := Graph.contains_iff.1 hnode
    refine ⟨fun hreached => ?_, node, Graph.mem_of_get? hn, Graph.id_of_get? hn⟩
    obtain ⟨actions, hrun⟩ := exists_run_of_mem_reached hreached
    exact hnever (openRules g) actions hrun

end Colloquy.Dialogue
