import Colloquy.Dialogue.Gating
import Colloquy.Proofs.Text.Ends

/-!
# Labels and the lock marker

A label is looked at for the lock marker twice, once to be shown and once to be refused.  Both
find it in the same labels (`isSome_behindMarker?`).  So a label is blanked just as long as it
is refused, and with the key it is shown without the marker.

A label of a script is not blank and has no blanks at its ends.  So without the key only the
locked ones are blank (`shown_spaces_iff_isLocked`).  With it the only blank one is the marker
itself (`shown_spaces_iff_eq_lockMarker`).
-/

namespace Colloquy.Dialogue.Gating

open Colloquy.Text

variable {rules : Gating} {label : String}

theorem isSome_behindMarker? (rules : Gating) (label : String) :
    (rules.behindMarker? label).isSome = rules.isLocked label := by
  rw [behindMarker?, isLocked]
  by_cases h : rules.lockMarker = ""
  · simp [h]
  · simp [h, List.isSome_isPrefixOf?_eq_isPrefixOf]

theorem behindMarker?_of_open (h : rules.isLocked label = false) :
    rules.behindMarker? label = none := by
  rwa [← Option.not_isSome_iff_eq_none, isSome_behindMarker?, Bool.not_eq_true]

/-- A locked label is the marker and what stands behind it. -/
theorem exists_behindMarker? (h : rules.isLocked label = true) :
    ∃ rest, rules.behindMarker? label = some (String.ofList rest) ∧
      label.toList = rules.lockMarker.toList ++ rest ∧ rules.lockMarker ≠ "" := by
  rw [← isSome_behindMarker?, Option.isSome_iff_exists] at h
  obtain ⟨text, htext⟩ := h
  have hbehind := htext
  rw [behindMarker?] at htext
  by_cases hm : rules.lockMarker = ""
  · rw [if_pos hm] at htext
    cases htext
  · rw [if_neg hm] at htext
    obtain ⟨rest, hrest, rfl⟩ := Option.map_eq_some_iff.1 htext
    exact ⟨rest, hbehind, Text.isPrefixOf?_eq_some_iff.1 hrest, hm⟩

/-- An open label is shown as it is. -/
theorem shown_of_open (h : rules.isLocked label = false) (hasKey : Bool) :
    rules.shown hasKey label = label := by
  rw [shown, behindMarker?_of_open h]

/-- A locked label is blank without the key. -/
theorem shown_of_locked (h : rules.isLocked label = true) : rules.shown false label = "" := by
  obtain ⟨rest, hbehind, -⟩ := exists_behindMarker? h
  rw [shown, hbehind]
  rfl

/-- The marker starts all locked labels, and it is one itself. -/
theorem isLocked_lockMarker (h : rules.lockMarker ≠ "") :
    rules.isLocked rules.lockMarker = true := by
  rw [isLocked, decide_eq_true h, Bool.true_and, List.isPrefixOf_iff_prefix]

/-- With the key what stands behind the marker is shown. -/
theorem exists_shown_of_locked (h : rules.isLocked label = true) :
    ∃ rest, rules.shown true label = String.ofList rest ∧
      label.toList = rules.lockMarker.toList ++ rest ∧ rules.lockMarker ≠ "" := by
  obtain ⟨rest, hbehind, hlabel, hm⟩ := exists_behindMarker? h
  refine ⟨rest, ?_, hlabel, hm⟩
  rw [shown, hbehind]
  rfl

/-- What is shown of a label is a part of it. -/
theorem shown_isInfix (rules : Gating) (hasKey : Bool) (label : String) :
    (rules.shown hasKey label).toList <:+: label.toList := by
  cases hl : rules.isLocked label with
  | false => rw [shown_of_open hl]
  | true =>
      cases hasKey with
      | false =>
          rw [shown_of_locked hl]
          exact List.nil_infix
      | true =>
          obtain ⟨rest, hshown, hlabel, -⟩ := exists_shown_of_locked hl
          rw [hshown, hlabel, String.toList_ofList]
          exact (List.suffix_append ..).isInfix

/-! ## Labels of a script -/

section Word

variable {space : Char → Bool}

/-- A trimmed label that is not empty is not blank. -/
theorem not_spaces (hspace : ∀ c, space c = true → isBlank c = true) (hne : label ≠ "")
    (htrim : trim label.toList = label.toList) : ¬ ∀ c ∈ label.toList, space c = true := by
  intro hall
  have hnil := (trim_eq_self_iff.1 htrim).2.eq_nil fun c hc => hspace c (hall c hc)
  exact hne (String.toList_eq_nil_iff.1 hnil)

/-- Without the key a label is blank if it is locked. -/
theorem shown_spaces_iff_isLocked (hspace : ∀ c, space c = true → isBlank c = true)
    (hne : label ≠ "") (htrim : trim label.toList = label.toList) :
    (∀ c ∈ (rules.shown false label).toList, space c = true) ↔ rules.isLocked label = true := by
  cases hl : rules.isLocked label with
  | true =>
      rw [shown_of_locked hl]
      exact iff_of_true (fun c hc => by cases hc) rfl
  | false =>
      rw [shown_of_open hl]
      exact iff_of_false (not_spaces hspace hne htrim) Bool.false_ne_true

/-- With the key a label is blank if it is nothing but the marker. -/
theorem shown_spaces_iff_eq_lockMarker (hspace : ∀ c, space c = true → isBlank c = true)
    (hne : label ≠ "") (htrim : trim label.toList = label.toList) :
    (∀ c ∈ (rules.shown true label).toList, space c = true) ↔
      label = rules.lockMarker ∧ rules.lockMarker ≠ "" := by
  cases hl : rules.isLocked label with
  | true =>
      obtain ⟨rest, hshown, hlabel, hm⟩ := exists_shown_of_locked hl
      rw [hshown, String.toList_ofList, and_iff_left hm]
      constructor
      · intro hall
        have hend := (trim_eq_self_iff.1 htrim).2
        rw [hlabel] at hend
        have hnil : rest = [] := hend.of_append.eq_nil fun c hc => hspace c (hall c hc)
        rw [hnil, List.append_nil] at hlabel
        exact String.toList_inj.1 hlabel
      · rintro rfl c hc
        rw [List.self_eq_append_right.1 hlabel] at hc
        cases hc
  | false =>
      rw [shown_of_open hl]
      refine iff_of_false (not_spaces hspace hne htrim) ?_
      rintro ⟨rfl, hm⟩
      rw [isLocked_lockMarker hm] at hl
      cases hl

end Word

end Colloquy.Dialogue.Gating
