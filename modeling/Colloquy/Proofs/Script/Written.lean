import Colloquy.Proofs.Text.Ends
import Colloquy.Proofs.Text.Lines
import Colloquy.Script.Writing

/-!
# Written lines as directives

Each line that a graph is written as stands for the directive it was written
for.  A word of the format begins the line and a word of the graph ends it, so
trimming takes nothing off.  A label ends at a blank before the arrow, and it
has no arrow itself, so the first arrow of the line is the one that was written.
-/

namespace Colloquy.Script

open Colloquy.Text

/-! ## What can be written is decided -/

instance (s : String) : Decidable (IsWord s) :=
  decidable_of_iff (s ≠ "" ∧ trim s.toList = s.toList ∧ '\n' ∉ s.toList)
    ⟨fun ⟨hn, ht, hl⟩ => ⟨hn, ht, hl⟩, fun h => ⟨h.nonempty, h.trimmed, h.oneLine⟩⟩

instance (c : Choice) : Decidable c.Writable :=
  decidable_of_iff (IsWord c.label ∧ IsWord c.next ∧ ¬ arrow <:+: c.label.toList)
    ⟨fun ⟨hl, hn, ha⟩ => ⟨hl, hn, ha⟩, fun h => ⟨h.label, h.next, h.noArrow⟩⟩

instance (n : Node) : Decidable n.Writable :=
  decidable_of_iff (IsWord n.id ∧ (∀ c ∈ n.choices, c.Writable) ∧
      ∀ l ∈ pieces n.text.toList, trim l ≠ closeMark)
    ⟨fun ⟨hi, hc, hb⟩ => ⟨hi, hc, hb⟩, fun h => ⟨h.id, h.choices, h.body⟩⟩

instance (g : Graph) : Decidable g.Writable :=
  decidable_of_iff (IsWord g.start ∧ (∀ n ∈ g.nodes, n.Writable) ∧ (g.nodes.map Node.id).Nodup)
    ⟨fun ⟨hs, hn, hd⟩ => ⟨hs, hn, hd⟩, fun h => ⟨h.start, h.nodes, h.distinct⟩⟩

/-! ## Words -/

theorem IsWord.startsSolid {s : String} (h : IsWord s) : StartsSolid s.toList :=
  (trim_eq_self_iff.1 h.trimmed).1

theorem IsWord.endsSolid {s : String} (h : IsWord s) : EndsSolid s.toList :=
  (trim_eq_self_iff.1 h.trimmed).2

theorem IsWord.toList_ne_nil {s : String} (h : IsWord s) : s.toList ≠ [] := by
  intro he
  exact h.nonempty (String.toList_eq_nil_iff.1 he)

theorem isBlank_space : isBlank ' ' = true := by decide

/-- A word behind a blank. -/
theorem trim_space_cons {s : String} (h : IsWord s) : trim (' ' :: s.toList) = s.toList := by
  rw [trim_blank_cons isBlank_space, h.trimmed]

/-- A word in front of a blank. -/
theorem trim_append_space {s : String} (h : IsWord s) : trim (s.toList ++ [' ']) = s.toList := by
  rw [trim_append_blank isBlank_space h.startsSolid h.toList_ne_nil, trimRight_eq_self h.endsSolid]

/-! ## Keyed lines -/

theorem endsSolid_keyed (key : List Char) {s : String} (h : IsWord s) :
    EndsSolid (keyed key s) := by
  rw [keyed, List.append_cons]
  exact endsSolid_append h.endsSolid h.toList_ne_nil

/-- Trimming takes nothing off a keyed line. -/
theorem trim_keyed {key : List Char} (hk : StartsSolid key) (hne : key ≠ []) {s : String}
    (h : IsWord s) : trim (keyed key s) = keyed key s :=
  trim_eq_self_iff.2 ⟨startsSolid_append hk hne, endsSolid_keyed key h⟩

theorem ofLine_start {s : String} (h : IsWord s) :
    Directive.ofLine (keyed startKey s) = .start s.toList := by
  have htrim : trim (keyed startKey s) = keyed startKey s := trim_keyed (by decide) (by decide) h
  have hsolid : ¬ (keyed startKey s = [] ∨ isComment (keyed startKey s) = true) := by
    simp [keyed, startKey, isComment]
  have hstart : startKey.isPrefixOf? (keyed startKey s) = some (' ' :: s.toList) :=
    isPrefixOf?_append ..
  simp only [Directive.ofLine, htrim, if_neg hsolid, hstart,
    trim_space_cons h]

theorem ofLine_state {s : String} (h : IsWord s) :
    Directive.ofLine (keyed stateKey s) = .state s.toList := by
  have htrim : trim (keyed stateKey s) = keyed stateKey s := trim_keyed (by decide) (by decide) h
  have hsolid : ¬ (keyed stateKey s = [] ∨ isComment (keyed stateKey s) = true) := by
    simp [keyed, stateKey, isComment]
  have hstart : startKey.isPrefixOf? (keyed stateKey s) = none := by
    simp [keyed, stateKey, startKey, List.isPrefixOf?]
  have hstate : stateKey.isPrefixOf? (keyed stateKey s) = some (' ' :: s.toList) :=
    isPrefixOf?_append ..
  simp only [Directive.ofLine, htrim, if_neg hsolid, hstart, hstate,
    trim_space_cons h]

theorem ofLine_text : Directive.ofLine textKey = .text := by decide

theorem ofLine_end : Directive.ofLine endKey = .endState := by decide

/-! ## Choices -/

/-- What stands behind the word of a choice. -/
def Choice.body (c : Choice) : List Char := c.label.toList ++ ' ' :: keyed arrow c.next

theorem Choice.line_eq (c : Choice) : c.line = choiceKey ++ ' ' :: c.body := by
  simp [Choice.line, Choice.body, keyed]

theorem trim_body {c : Choice} (h : c.Writable) : trim c.body = c.body := by
  refine trim_eq_self_iff.2 ⟨startsSolid_append h.label.startsSolid h.label.toList_ne_nil, ?_⟩
  rw [Choice.body, List.append_cons]
  exact endsSolid_append (endsSolid_keyed arrow h.next) (by simp [keyed, arrow])

theorem trim_line {c : Choice} (h : c.Writable) : trim c.line = c.line := by
  rw [c.line_eq]
  refine trim_eq_self_iff.2 ⟨startsSolid_append (by decide) (by decide), ?_⟩
  rw [List.append_cons]
  exact endsSolid_append (trim_eq_self_iff.1 (trim_body h)).2 (by simp [Choice.body])

theorem ofLine_choice {c : Choice} (h : c.Writable) :
    Directive.ofLine c.line = .choice c.body := by
  have hline := c.line_eq
  have hsolid : ¬ (c.line = [] ∨ isComment c.line = true) := by
    simp [hline, choiceKey, isComment]
  have hstart : startKey.isPrefixOf? c.line = none := by
    simp [hline, choiceKey, startKey, List.isPrefixOf?]
  have hstate : stateKey.isPrefixOf? c.line = none := by
    simp [hline, choiceKey, stateKey, List.isPrefixOf?]
  have htext : c.line ≠ textKey := by
    simp [hline, choiceKey, textKey]
  have hchoice : choiceKey.isPrefixOf? c.line = some (' ' :: c.body) := by
    rw [hline]
    exact isPrefixOf?_append ..
  have hbody : trim (' ' :: c.body) = c.body := by
    rw [trim_blank_cons isBlank_space, trim_body h]
  simp only [Directive.ofLine, trim_line h, if_neg hsolid, hstart, hstate, if_neg htext, hchoice,
    hbody]

/-- The first arrow behind a text without arrows is the next one. -/
theorem splitArrow_append {front : List Char} (h : ¬ arrow <:+: front) (back : List Char) :
    splitArrow (front ++ (arrow ++ back)) = some (front, back) := by
  induction front with
  | nil => simp [splitArrow, arrow, List.isPrefixOf?]
  | cons c front ih =>
      have hfront : ¬ arrow <:+: front := fun hi => h (hi.trans (List.suffix_cons c front).isInfix)
      have hhere : arrow.isPrefixOf? (c :: (front ++ (arrow ++ back))) = none := by
        rw [Option.eq_none_iff_forall_ne_some]
        intro rest hrest
        have he := isPrefixOf?_eq_some_iff.1 hrest
        cases front with
        | nil => simp [arrow] at he
        | cons d front =>
            simp only [arrow, List.cons_append, List.cons.injEq] at he
            obtain ⟨rfl, rfl, _⟩ := he
            exact h (List.prefix_append arrow front).isInfix
      rw [List.cons_append, splitArrow, hhere, ih hfront]
      rfl

/-- The body of a choice is read as the choice. -/
theorem readChoice_body {c : Choice} (h : c.Writable) (line : Nat) :
    readChoice c.body line = .ok c := by
  have hfront : ¬ arrow <:+: c.label.toList ++ [' '] := by
    intro hi
    rcases List.infix_concat_iff.1 hi with hs | hi
    · obtain ⟨front, hf⟩ := hs
      have hlast := congrArg List.getLast? hf
      simp [arrow] at hlast
    · exact h.noArrow hi
  have hsplit : splitArrow c.body = some (c.label.toList ++ [' '], ' ' :: c.next.toList) := by
    rw [Choice.body, List.append_cons]
    exact splitArrow_append hfront _
  have hne : ¬ (c.label.toList = [] ∨ c.next.toList = []) := by
    rintro (he | he)
    · exact h.label.toList_ne_nil he
    · exact h.next.toList_ne_nil he
  simp only [readChoice, hsplit, trim_append_space h.label, trim_space_cons h.next, if_neg hne,
    String.ofList_toList]

/-! ## Lines that last -/

/-- A line that ends solid does not end in a carriage return. -/
theorem lasts_of_endsSolid {line : List Char} (hn : '\n' ∉ line) (he : EndsSolid line) :
    Lasts line := by
  refine ⟨hn, fun hr => ?_⟩
  have hb := he _ hr
  simp [isBlank] at hb

theorem lasts_keyed {key : List Char} (hk : '\n' ∉ key) {s : String} (h : IsWord s) :
    Lasts (keyed key s) := by
  refine lasts_of_endsSolid ?_ (endsSolid_keyed key h)
  simp [keyed, hk, h.oneLine]

theorem lasts_choice {c : Choice} (h : c.Writable) : Lasts c.line := by
  refine lasts_of_endsSolid ?_ (trim_eq_self_iff.1 (trim_line h)).2
  simp [Choice.line, keyed, choiceKey, arrow, h.label.oneLine, h.next.oneLine]

end Colloquy.Script
