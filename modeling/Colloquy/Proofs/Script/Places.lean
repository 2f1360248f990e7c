import Colloquy.Proofs.Script.Reprint

/-!
# Where lines stand

A line of a script stands at the top level, behind a line that announces a text
block, or in a text block (`Place`).  That depends on the lines before it alone,
and blanks at the ends of lines make no difference.  So a script is a list of
trimmed lines here (`trimmedLines`).

At the top level a line is at fault when it is a choice that cannot be divided or
lacks a part.  Behind an announcement it is at fault unless it opens the block.  In
a block no line is.  The reader refuses a line just when it is at fault where it
stands (`Reading.value_step_eq_error_iff`), and goes on to the next place otherwise
(`Reading.place_of_step`).
-/

namespace Colloquy.Script

open Colloquy.Text

/-- The lines of a script without the blanks at their ends. -/
def trimmedLines (source : String) : List (List Char) := (lines source.toList).map trim

/-! ## Places -/

/-- Where a line of a script stands. -/
inductive Place where
  /-- In no text block. -/
  | top
  /-- Right behind a line that announces a text block. -/
  | announced
  /-- In the body of a text block, or at its end. -/
  | inside
deriving Repr, DecidableEq, Inhabited

/-- Where the line behind a line stands. -/
def Place.next : Place → List Char → Place
  | .top, t => if t = textKey then .announced else .top
  | .announced, t => if t = openMark then .inside else .top
  | .inside, t => if t = closeMark then .top else .inside

/-- Where the line behind the first lines of a script stands. -/
def placeAfter (ts : List (List Char)) : Place := ts.foldl Place.next .top

theorem placeAfter_concat (ts : List (List Char)) (t : List Char) :
    placeAfter (ts ++ [t]) = (placeAfter ts).next t := List.foldl_concat ..

/-- A line stands behind an announcement when the line before it is one and is not
itself part of a text block. -/
theorem next_eq_announced_iff {p : Place} {t : List Char} :
    p.next t = .announced ↔ p = .top ∧ t = textKey := by
  cases p with
  | top => simp [Place.next]
  | announced =>
      rw [Place.next]
      split <;> simp
  | inside =>
      rw [Place.next]
      split <;> simp

/-- Where the line behind the lines read so far stands. -/
def Position.place : Position → Place
  | .top => .top
  | .announced _ => .announced
  | .inside _ _ _ => .inside

theorem Position.eq_top_of_place {p : Position} (h : p.place = .top) : p = .top := by
  cases p with
  | top => rfl
  | announced textLine => cases h
  | inside textLine openLine body => cases h

/-! ## Directives by their trimmed lines -/

/-- A line announces a text block just when nothing else is on it. -/
theorem ofLine_eq_text_iff {line : List Char} :
    Directive.ofLine line = .text ↔ trim line = textKey := by
  constructor
  · intro h
    rw [Directive.ofLine] at h
    split at h
    · cases h
    split at h
    · cases h
    split at h
    · cases h
    split at h
    next ht => exact ht
    split at h
    · cases h
    split at h
    · cases h
    · cases h
  · intro h
    have htext : Directive.ofLine textKey = .text := ofLine_text
    have hkey : trim textKey = textKey := by decide
    simp only [Directive.ofLine, hkey] at htext
    simp only [Directive.ofLine, h, htext]

/-- A line is a choice just when it starts with the key of choices.  What follows the
key is trimmed. -/
theorem ofLine_eq_choice_iff {line body : List Char} :
    Directive.ofLine line = .choice body ↔
      ∃ rest, trim line = choiceKey ++ rest ∧ body = trim rest := by
  constructor
  · intro h
    rw [Directive.ofLine] at h
    split at h
    · cases h
    split at h
    · cases h
    split at h
    · cases h
    split at h
    · cases h
    split at h
    next rest hrest =>
      cases h
      exact ⟨rest, isPrefixOf?_eq_some_iff.1 hrest, rfl⟩
    split at h
    · cases h
    · cases h
  · rintro ⟨rest, hline, rfl⟩
    have hsolid : ¬ (choiceKey ++ rest = [] ∨ isComment (choiceKey ++ rest) = true) := by
      simp [choiceKey, isComment]
    have hstart : startKey.isPrefixOf? (choiceKey ++ rest) = none := by
      simp [choiceKey, startKey, List.isPrefixOf?]
    have hstate : stateKey.isPrefixOf? (choiceKey ++ rest) = none := by
      simp [choiceKey, stateKey, List.isPrefixOf?]
    have htext : choiceKey ++ rest ≠ textKey := by
      simp [choiceKey, textKey]
    simp only [Directive.ofLine, hline, if_neg hsolid, hstart, hstate, if_neg htext,
      isPrefixOf?_append]

/-! ## Choices by their bodies -/

theorem splitArrow_eq_none_iff {body : List Char} :
    splitArrow body = none ↔ ¬ arrow <:+: body := by
  constructor
  · intro h
    induction body with
    | nil => decide
    | cons c cs ih =>
        rw [splitArrow] at h
        cases hhere : arrow.isPrefixOf? (c :: cs) with
        | some rest =>
            rw [hhere] at h
            cases h
        | none =>
            rw [hhere] at h
            intro hi
            rcases List.infix_cons_iff.1 hi with ⟨back, hb⟩ | hi
            · rw [← hb, isPrefixOf?_append] at hhere
              cases hhere
            · exact ih (Option.map_eq_none_iff.1 h) hi
  · intro h
    by_contra hne
    obtain ⟨⟨label, next⟩, hs⟩ := Option.ne_none_iff_exists'.1 hne
    obtain ⟨rfl, -⟩ := splitArrow_eq_some hs
    exact h ⟨label, next, List.append_assoc ..⟩

/-- The ends of a text with an arrow are trimmed apart from each other. -/
theorem trim_append_arrow (label next : List Char) :
    trim (label ++ (arrow ++ next)) = trimLeft label ++ (arrow ++ trimRight next) := by
  have hstart : StartsSolid (arrow ++ next) := startsSolid_append (by decide) (by decide)
  have hend : EndsSolid (trimLeft label ++ arrow) := endsSolid_append (by decide) (by decide)
  rw [trim, trimLeft_append _ hstart, ← List.append_assoc, trimRight_append hend,
    List.append_assoc]

theorem splitArrow_trim (body : List Char) : splitArrow (trim body) =
    (splitArrow body).map fun (label, next) => (trimLeft label, trimRight next) := by
  cases hs : splitArrow body with
  | none =>
      have hno := splitArrow_eq_none_iff.1 hs
      exact splitArrow_eq_none_iff.2 fun hi => hno (hi.trans (isInfix_trim body))
  | some parts =>
      obtain ⟨label, next⟩ := parts
      obtain ⟨rfl, hno⟩ := splitArrow_eq_some hs
      rw [trim_append_arrow]
      exact splitArrow_append
        (fun hi => hno (hi.trans (List.dropWhile_suffix _).isInfix)) _

/-- Blanks at the ends of its body make no difference to a choice. -/
theorem readChoice_trim (body : List Char) (line : Nat) :
    readChoice (trim body) line = readChoice body line := by
  rw [readChoice, readChoice, splitArrow_trim]
  cases splitArrow body with
  | none => rfl
  | some parts => simp only [Option.map_some, trim_trimLeft, trim_trimRight]

/-! ## Lines at fault -/

/-- A trimmed line with a number is a choice at fault. -/
inductive ChoiceFault (n : Nat) (t : List Char) : Fault → Prop where
  /-- There is no arrow behind the key. -/
  | missingArrow {body : List Char} : t = choiceKey ++ body → ¬ arrow <:+: body →
      ChoiceFault n t (.missingArrow n)
  /-- There is nothing but blanks between the key and the first arrow, or behind that. -/
  | emptyPart {label next : List Char} : t = choiceKey ++ (label ++ (arrow ++ next)) →
      ¬ arrow <:+: label → trim label = [] ∨ trim next = [] → ChoiceFault n t (.emptyPart n)

/-- A trimmed line with a number is at fault where it stands. -/
def LineFault : Place → Nat → List Char → Fault → Prop
  | .top, n, t, fault => ChoiceFault n t fault
  | .announced, n, t, fault => t ≠ openMark ∧ fault = .missingOpen n
  | .inside, _, _, _ => False

/-- A fault of a line has the number of the line. -/
theorem LineFault.line? {p : Place} {n : Nat} {t : List Char} {fault : Fault}
    (h : LineFault p n t fault) : fault.line? = some n := by
  cases p with
  | top => cases h <;> rfl
  | announced =>
      obtain ⟨-, rfl⟩ := h
      rfl
  | inside => exact h.elim

theorem readChoice_eq_error_iff {body : List Char} {n : Nat} {fault : Fault} :
    readChoice body n = .error fault ↔ ChoiceFault n (choiceKey ++ body) fault := by
  constructor
  · intro h
    rw [readChoice] at h
    cases hs : splitArrow body with
    | none =>
        rw [hs] at h
        cases h
        exact .missingArrow rfl (splitArrow_eq_none_iff.1 hs)
    | some parts =>
        obtain ⟨label, next⟩ := parts
        obtain ⟨rfl, hno⟩ := splitArrow_eq_some hs
        rw [hs] at h
        simp only at h
        split at h
        next he =>
          cases h
          exact .emptyPart rfl hno he
        next => cases h
  · intro h
    cases h with
    | missingArrow he hno =>
        cases List.append_cancel_left he
        rw [readChoice, splitArrow_eq_none_iff.2 hno]
    | emptyPart he hno hempty =>
        cases List.append_cancel_left he
        rw [readChoice, splitArrow_append hno]
        exact if_pos hempty

/-- There is one thing wrong with a line at most. -/
theorem LineFault.unique {p : Place} {n : Nat} {t : List Char} {fault fault' : Fault}
    (h : LineFault p n t fault) (h' : LineFault p n t fault') : fault = fault' := by
  cases p with
  | top =>
      obtain ⟨body, rfl⟩ : ∃ body, t = choiceKey ++ body := by
        cases h with
        | missingArrow he _ => exact ⟨_, he⟩
        | emptyPart he _ _ => exact ⟨_, he⟩
      have hread := readChoice_eq_error_iff.2 h
      exact Except.error.inj (hread.symm.trans (readChoice_eq_error_iff.2 h'))
  | announced => exact h.2.trans h'.2.symm
  | inside => exact h.elim

/-! ## The reader at a line -/

namespace Reading

theorem value_obey_eq_error_iff {r : Reading} {n : Nat} {line : List Char} {fault : Fault} :
    (r.obey n (Directive.ofLine line)).value = .error fault ↔ ChoiceFault n (trim line) fault := by
  have hchoice : ChoiceFault n (trim line) fault →
      ∃ body, Directive.ofLine line = .choice body := by
    intro h
    cases h with
    | missingArrow he _ => exact ⟨_, ofLine_eq_choice_iff.2 ⟨_, he, rfl⟩⟩
    | emptyPart he _ _ => exact ⟨_, ofLine_eq_choice_iff.2 ⟨_, he, rfl⟩⟩
  cases hd : Directive.ofLine line with
  | choice body =>
      obtain ⟨rest, he, rfl⟩ := ofLine_eq_choice_iff.1 hd
      rw [he, ← readChoice_eq_error_iff, obey, readChoice_trim]
      cases readChoice rest n with
      | error fault' => simp
      | ok choice => simp
  | _ =>
      rw [hd] at hchoice
      simp only [reduceCtorEq, exists_false, imp_false] at hchoice
      simp [obey, hchoice]

/-- A line is refused when it is at fault where it stands. -/
theorem value_step_eq_error_iff {r : Reading} {n : Nat} {line : List Char} {fault : Fault} :
    (r.step n line).value = .error fault ↔ LineFault r.position.place n (trim line) fault := by
  rw [step]
  cases r.position with
  | top => exact value_obey_eq_error_iff
  | announced textLine =>
      by_cases ho : trim line = openMark
      · simp [Position.place, LineFault, ho]
      · simp [Position.place, LineFault, ho, eq_comm]
  | inside textLine openLine body =>
      by_cases hc : trim line = closeMark
      · simp [Position.place, LineFault, hc]
      · simp [Position.place, LineFault, hc]

theorem position_commit (r : Reading) : r.commit.value.position = r.position := by
  rw [value_commit]

theorem position_addChoice (r : Reading) (n : Nat) (choice : Choice) :
    (r.addChoice n choice).value.position = r.position := by
  rw [addChoice]
  cases r.current with
  | none => rfl
  | some node => rfl

/-- Only an announcement leads away from the top level. -/
theorem position_of_obey {r r' : Reading} {n : Nat} {d : Directive} (hd : d ≠ .text)
    (h : (r.obey n d).value = .ok r') : r'.position = r.position := by
  cases d with
  | text => exact absurd rfl hd
  | nothing =>
      cases h
      rfl
  | start id =>
      cases h
      rfl
  | state id =>
      cases h
      exact r.position_commit
  | endState =>
      cases h
      exact r.position_commit
  | unknown =>
      cases h
      rfl
  | choice body =>
      rw [obey] at h
      cases hread : readChoice body n with
      | error fault =>
          rw [hread] at h
          cases h
      | ok choice =>
          rw [hread] at h
          cases h
          exact r.position_addChoice n choice

theorem position_setText (r : Reading) (textLine : Nat) (body : List (List Char)) :
    (r.setText textLine body).value.position = .top := by
  rw [setText]
  cases r.current with
  | none => rfl
  | some node => rfl

/-- A line that is not refused leads to the place behind it. -/
theorem place_of_step {r r' : Reading} {n : Nat} {line : List Char}
    (h : (r.step n line).value = .ok r') :
    r'.position.place = r.position.place.next (trim line) := by
  rw [step] at h
  cases hp : r.position with
  | top =>
      rw [hp] at h
      by_cases hd : Directive.ofLine line = .text
      · rw [hd] at h
        cases h
        exact (if_pos (ofLine_eq_text_iff.1 hd)).symm
      · rw [position_of_obey hd h, hp]
        exact (if_neg (mt ofLine_eq_text_iff.2 hd)).symm
  | announced textLine =>
      rw [hp] at h
      by_cases ho : trim line = openMark
      · simp only [if_pos ho] at h
        cases h
        exact (if_pos ho).symm
      · simp only [if_neg ho] at h
        cases h
  | inside textLine openLine body =>
      rw [hp] at h
      by_cases hc : trim line = closeMark
      · simp only [if_pos hc] at h
        cases h
        exact (congrArg Position.place (r.position_setText ..)).trans (if_pos hc).symm
      · simp only [if_neg hc] at h
        cases h
        exact (if_neg hc).symm

/-- A line that announces a text block is remembered by its number. -/
theorem position_of_announces {r r' : Reading} {n : Nat} {line : List Char}
    (ht : r.position = .top) (hl : trim line = textKey)
    (h : (r.step n line).value = .ok r') : r'.position = .announced n := by
  rw [step, ht, ofLine_eq_text_iff.2 hl] at h
  cases h
  rfl

end Reading

end Colloquy.Script
