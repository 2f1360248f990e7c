import Colloquy.Text.Blank
import Mathlib.Data.List.Infix

/-!
# The ends of a text

A text is trimmed when it has no blank at either end (`trim_eq_self_iff`).
Trimming leaves a trimmed text, and a blank put at an end of a text is trimmed
off again.  The two ends can be trimmed in either order (`trimLeft_trimRight`).

What stands behind a word at the beginning of a text is the text without that
word (`isPrefixOf?_eq_some_iff`).
-/

namespace Colloquy.Text

/-! ## Beginnings -/

theorem isPrefixOf?_eq_some_iff {front text back : List Char} :
    front.isPrefixOf? text = some back ↔ text = front ++ back := by
  induction front generalizing text with
  | nil =>
      rw [List.isPrefixOf?, Option.some.injEq, List.nil_append]
  | cons c front ih =>
      cases text with
      | nil => simp [List.isPrefixOf?]
      | cons d text =>
          rw [List.isPrefixOf?, List.cons_append, List.cons.injEq]
          by_cases he : c = d
          · rw [if_pos (beq_iff_eq.2 he), ih]
            simp [he]
          · rw [if_neg (fun hb => he (beq_iff_eq.1 hb))]
            simp [Ne.symm he]

/-- A text that begins with another one. -/
theorem isPrefixOf?_append (front back : List Char) :
    front.isPrefixOf? (front ++ back) = some back := isPrefixOf?_eq_some_iff.2 rfl

theorem isPrefixOf?_eq_none {front text : List Char} (h : ¬ front <+: text) :
    front.isPrefixOf? text = none := by
  by_contra hne
  obtain ⟨back, hb⟩ := Option.ne_none_iff_exists'.1 hne
  exact h ⟨back, (isPrefixOf?_eq_some_iff.1 hb).symm⟩

/-! ## Solid ends -/

/-- A text that does not begin with a blank. -/
def StartsSolid (cs : List Char) : Prop := ∀ c ∈ cs.head?, isBlank c = false

/-- A text that does not end in a blank. -/
def EndsSolid (cs : List Char) : Prop := ∀ c ∈ cs.getLast?, isBlank c = false

instance (cs : List Char) : Decidable (StartsSolid cs) :=
  decidable_of_iff (cs.head?.all fun c => !isBlank c) (by simp [StartsSolid, Option.all_eq_true])

instance (cs : List Char) : Decidable (EndsSolid cs) :=
  decidable_of_iff (cs.getLast?.all fun c => !isBlank c) (by simp [EndsSolid, Option.all_eq_true])

theorem startsSolid_trimLeft (cs : List Char) : StartsSolid (trimLeft cs) := by
  intro c hc
  have h := List.head?_dropWhile_not isBlank cs
  rw [trimLeft] at hc
  rw [hc] at h
  simpa using h

theorem trimLeft_eq_self {cs : List Char} (h : StartsSolid cs) : trimLeft cs = cs := by
  cases cs with
  | nil => rfl
  | cons c cs =>
      have hc : isBlank c = false := h c rfl
      rw [trimLeft, List.dropWhile_cons_of_neg (by simp [hc])]

theorem trimRight_eq (cs : List Char) : trimRight cs = (trimLeft cs.reverse).reverse := rfl

theorem endsSolid_iff {cs : List Char} : EndsSolid cs ↔ StartsSolid cs.reverse := by
  rw [EndsSolid, StartsSolid, List.head?_reverse]

theorem endsSolid_trimRight (cs : List Char) : EndsSolid (trimRight cs) := by
  rw [endsSolid_iff, trimRight_eq, List.reverse_reverse]
  exact startsSolid_trimLeft cs.reverse

theorem trimRight_eq_self {cs : List Char} (h : EndsSolid cs) : trimRight cs = cs := by
  rw [trimRight_eq, trimLeft_eq_self (endsSolid_iff.1 h), List.reverse_reverse]

theorem isPrefix_trimRight (cs : List Char) : trimRight cs <+: cs := by
  rw [trimRight_eq, ← List.reverse_suffix, List.reverse_reverse]
  exact List.dropWhile_suffix _

/-- Trimming the end keeps a solid beginning. -/
theorem startsSolid_trimRight {cs : List Char} (h : StartsSolid cs) :
    StartsSolid (trimRight cs) := by
  intro c hc
  obtain ⟨back, hb⟩ := isPrefix_trimRight cs
  apply h
  rw [← hb, List.head?_append, hc]
  rfl

/-- A text is trimmed when its ends are solid. -/
theorem trim_eq_self_iff {cs : List Char} : trim cs = cs ↔ StartsSolid cs ∧ EndsSolid cs := by
  constructor
  · intro h
    rw [← h]
    exact ⟨startsSolid_trimRight (startsSolid_trimLeft cs), endsSolid_trimRight _⟩
  · rintro ⟨hs, he⟩
    rw [trim, trimLeft_eq_self hs, trimRight_eq_self he]

/-- A trimmed text has nothing to be trimmed off. -/
theorem trim_trim (cs : List Char) : trim (trim cs) = trim cs :=
  trim_eq_self_iff.2 ⟨startsSolid_trimRight (startsSolid_trimLeft cs), endsSolid_trimRight _⟩

/-- Trimming keeps a part of a text in one piece. -/
theorem isInfix_trim (cs : List Char) : trim cs <:+: cs :=
  (isPrefix_trimRight (trimLeft cs)).isInfix.trans (List.dropWhile_suffix _).isInfix

/-- A text of blanks that ends solid is empty. -/
theorem EndsSolid.eq_nil {cs : List Char} (h : EndsSolid cs)
    (hblank : ∀ c ∈ cs, isBlank c = true) : cs = [] := by
  rcases List.eq_nil_or_concat' cs with rfl | ⟨init, c, rfl⟩
  · rfl
  · have hc : isBlank c = false := h c (by simp)
    rw [hblank c (by simp)] at hc
    cases hc

/-! ## Solid ends of longer texts -/

theorem EndsSolid.of_append {cs ds : List Char} (h : EndsSolid (cs ++ ds)) : EndsSolid ds := by
  intro c hc
  apply h
  rw [List.getLast?_append, hc]
  rfl

theorem startsSolid_append {cs ds : List Char} (h : StartsSolid cs) (hne : cs ≠ []) :
    StartsSolid (cs ++ ds) := by
  cases cs with
  | nil => exact absurd rfl hne
  | cons c cs => exact h

theorem endsSolid_append {cs ds : List Char} (h : EndsSolid ds) (hne : ds ≠ []) :
    EndsSolid (cs ++ ds) := by
  rw [endsSolid_iff, List.reverse_append]
  exact startsSolid_append (endsSolid_iff.1 h) (by simpa using hne)

/-- A solid beginning stops the trimming of what is in front of it. -/
theorem trimLeft_append (cs : List Char) {ds : List Char} (h : StartsSolid ds) :
    trimLeft (cs ++ ds) = trimLeft cs ++ ds := by
  induction cs with
  | nil => exact trimLeft_eq_self h
  | cons c cs ih =>
      by_cases hc : isBlank c = true
      · rw [List.cons_append, trimLeft, trimLeft, List.dropWhile_cons_of_pos hc,
          List.dropWhile_cons_of_pos hc]
        exact ih
      · rw [List.cons_append, trimLeft, trimLeft, List.dropWhile_cons_of_neg hc,
          List.dropWhile_cons_of_neg hc, List.cons_append]

/-- A solid end stops the trimming of what is behind it. -/
theorem trimRight_append {cs : List Char} (h : EndsSolid cs) (ds : List Char) :
    trimRight (cs ++ ds) = cs ++ trimRight ds := by
  rw [trimRight_eq, trimRight_eq, List.reverse_append, trimLeft_append _ (endsSolid_iff.1 h),
    List.reverse_append, List.reverse_reverse]

/-! ## Blanks put at an end -/

theorem trim_blank_cons {c : Char} (hc : isBlank c = true) (cs : List Char) :
    trim (c :: cs) = trim cs := by
  rw [trim, trimLeft, List.dropWhile_cons_of_pos hc]
  rfl

theorem trim_append_blank {c : Char} (hc : isBlank c = true) {cs : List Char}
    (h : StartsSolid cs) (hne : cs ≠ []) : trim (cs ++ [c]) = trimRight cs := by
  rw [trim, trimLeft_eq_self (startsSolid_append h hne), trimRight, trimRight, List.reverse_append]
  show (List.dropWhile isBlank (c :: cs.reverse)).reverse = _
  rw [List.dropWhile_cons_of_pos hc]

/-! ## Trimming one end after the other -/

theorem trimRight_cons (c : Char) (cs : List Char) :
    trimRight (c :: cs) =
      if trimRight cs = [] ∧ isBlank c = true then [] else c :: trimRight cs := by
  rw [trimRight, List.reverse_cons, List.dropWhile_append, trimRight]
  by_cases he : cs.reverse.dropWhile isBlank = []
  · by_cases hc : isBlank c = true
    · simp [he, hc]
    · simp [he, hc]
  · simp [he]

/-- It makes no difference which end is trimmed first. -/
theorem trimLeft_trimRight (cs : List Char) : trimLeft (trimRight cs) = trim cs := by
  induction cs with
  | nil => rfl
  | cons c cs ih =>
      by_cases hc : isBlank c = true
      · rw [trim_blank_cons hc, ← ih, trimRight_cons]
        split
        next he => rw [he.1]
        next => rw [trimLeft, List.dropWhile_cons_of_pos hc, trimLeft]
      · have hsolid : ∀ ds, trimLeft (c :: ds) = c :: ds := fun ds =>
          List.dropWhile_cons_of_neg hc
        rw [trim, hsolid, trimRight_cons, if_neg fun h => hc h.2, hsolid]

theorem trim_trimLeft (cs : List Char) : trim (trimLeft cs) = trim cs := by
  rw [trim, trimLeft_eq_self (startsSolid_trimLeft cs)]
  rfl

theorem trim_trimRight (cs : List Char) : trim (trimRight cs) = trim cs := by
  rw [← trimLeft_trimRight, trimRight_eq_self (endsSolid_trimRight cs), trimLeft_trimRight]

end Colloquy.Text
