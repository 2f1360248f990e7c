import Colloquy.Proofs.Script.Blocks
import Colloquy.Script.Check

/-!
# Scripts that are read can be written

The graph of a script can be held by a script.  It is read back as it is, if no
line of a body ends in a carriage return, and there is none where the script has
none (`read_writable`).

A graph holds what the items of its script hold, and nothing else.  So all there
is to show is what lines without newlines can stand for (`Stands.writable`).  Ids,
labels and targets are what is left of a part of a line after trimming.  A label
is in front of the first arrow, and a body goes up to the first line that closes it.
So every character of a text in the graph comes from the script, but for the newlines
between the lines of a body (`mem_of_mem_texts`).
-/

namespace Colloquy.Script

open Colloquy.Text

/-! ## Parts of lines -/

/-- A text without blanks at its ends, on one line.  It is a word, unless it is
empty. -/
structure IsTrimmed (s : String) : Prop where
  /-- It has no blanks at its ends. -/
  trimmed : trim s.toList = s.toList
  /-- It has no newline. -/
  oneLine : '\n' ∉ s.toList

theorem IsTrimmed.isWord {s : String} (h : IsTrimmed s) (hne : s ≠ "") : IsWord s :=
  ⟨hne, h.trimmed, h.oneLine⟩

theorem isTrimmed_trim {cs : List Char} (h : '\n' ∉ cs) : IsTrimmed (String.ofList (trim cs)) := by
  constructor
  · rw [String.toList_ofList, trim_trim]
  · rw [String.toList_ofList]
    exact fun hn => h ((isInfix_trim cs).subset hn)

theorem isWord_trim {cs : List Char} (h : '\n' ∉ cs) (hne : trim cs ≠ []) :
    IsWord (String.ofList (trim cs)) := by
  refine (isTrimmed_trim h).isWord fun he => hne ?_
  rw [← String.toList_ofList (l := trim cs), he]
  rfl

/-- What a directive says beside its key. -/
def Directive.body? : Directive → Option (List Char)
  | .start body | .state body | .choice body => some body
  | _ => none

/-- What a directive says is a part of its line, trimmed. -/
theorem exists_infix_of_body? {line body : List Char}
    (h : (Directive.ofLine line).body? = some body) :
    ∃ part, part <:+: line ∧ body = trim part := by
  have hpart : ∀ {key part : List Char}, key.isPrefixOf? (trim line) = some part →
      part <:+: line := by
    intro key part hkey
    have hsuffix : part <:+ trim line := ⟨key, (isPrefixOf?_eq_some_iff.1 hkey).symm⟩
    exact hsuffix.isInfix.trans (isInfix_trim line)
  rw [Directive.ofLine] at h
  split at h
  · cases h
  split at h
  next part hkey => exact ⟨part, hpart hkey, (Option.some.inj h).symm⟩
  split at h
  next part hkey => exact ⟨part, hpart hkey, (Option.some.inj h).symm⟩
  split at h
  · cases h
  split at h
  next part hkey => exact ⟨part, hpart hkey, (Option.some.inj h).symm⟩
  split at h
  · cases h
  · cases h

/-- A label goes up to the first arrow. -/
theorem splitArrow_eq_some {body label next : List Char}
    (h : splitArrow body = some (label, next)) :
    body = label ++ (arrow ++ next) ∧ ¬ arrow <:+: label := by
  induction body generalizing label with
  | nil => cases h
  | cons c cs ih =>
      rw [splitArrow] at h
      cases hhere : arrow.isPrefixOf? (c :: cs) with
      | some rest =>
          rw [hhere] at h
          cases h
          refine ⟨?_, by decide⟩
          rw [List.nil_append]
          exact isPrefixOf?_eq_some_iff.1 hhere
      | none =>
          rw [hhere] at h
          obtain ⟨⟨front, back⟩, hcs, he⟩ := Option.map_eq_some_iff.1 h
          cases he
          obtain ⟨rfl, hfront⟩ := ih hcs
          refine ⟨rfl, fun hi => ?_⟩
          rcases List.infix_cons_iff.1 hi with ⟨back', hp⟩ | hi
          · rw [← List.cons_append, ← hp, List.append_assoc, isPrefixOf?_append] at hhere
            cases hhere
          · exact hfront hi

/-! ## Items of lines -/

/-- An item whose parts a script can hold. -/
def Item.Writable : Item → Prop
  | .start id | .state id => IsTrimmed id
  | .text body => ∀ l ∈ pieces body.toList, trim l ≠ closeMark
  | .choice c => c.Writable
  | .nothing | .endState => True

theorem OpensText.writable {ls : List (List Char)} {body : String} (h : OpensText ls body)
    (hls : ∀ l ∈ ls, '\n' ∉ l) : (Item.text body).Writable := by
  cases h with
  | @mk announce opening ls _ _ hbody =>
      intro l hl
      rw [String.toList_ofList] at hl
      by_cases hne : ls = []
      · -- a body without lines is one empty piece
        rw [hne] at hl
        cases List.mem_singleton.1 hl
        decide
      · rw [pieces_unpieces hne fun m hm => hls m (by simp [hm])] at hl
        exact hbody l hl

/-- The characters of a body stand in its lines, newlines apart. -/
theorem OpensText.mem_body {ls : List (List Char)} {body : String} (h : OpensText ls body)
    {c : Char} (hc : c ∈ body.toList) : c = '\n' ∨ ∃ l ∈ ls, c ∈ l := by
  cases h with
  | mk =>
      rw [String.toList_ofList] at hc
      exact (mem_unpieces hc).imp_right fun ⟨l, hl, hm⟩ => ⟨l, by simp [hl], hm⟩

/-- What lines without newlines stand for can be written. -/
theorem Stands.writable {ls : List (List Char)} {item : Item} (h : Stands ls item)
    (hls : ∀ l ∈ ls, '\n' ∉ l) : item.Writable := by
  have hbody : ∀ {l body : List Char}, (Directive.ofLine l).body? = some body → '\n' ∉ l →
      ∃ part, body = trim part ∧ '\n' ∉ part := by
    intro l body hb hl
    obtain ⟨part, hp, rfl⟩ := exists_infix_of_body? hb
    exact ⟨part, rfl, fun hn => hl (hp.subset hn)⟩
  cases h with
  | nothing _ => exact trivial
  | unknown _ => exact trivial
  | endState _ => exact trivial
  | @start l id hl =>
      obtain ⟨part, rfl, hn⟩ := hbody (by rw [hl]; rfl) (hls l (List.mem_singleton_self l))
      exact isTrimmed_trim hn
  | @state l id hl =>
      obtain ⟨part, rfl, hn⟩ := hbody (by rw [hl]; rfl) (hls l (List.mem_singleton_self l))
      exact isTrimmed_trim hn
  | text ho _ => exact ho.writable fun l hl => hls l (List.mem_append_left _ hl)
  | @choice l body label next hl hs hlabel hnext =>
      obtain ⟨part, rfl, hn⟩ := hbody (by rw [hl]; rfl) (hls l (List.mem_singleton_self l))
      obtain ⟨he, harrow⟩ := splitArrow_eq_some hs
      have hone : '\n' ∉ label ++ (arrow ++ next) := by
        rw [← he]
        exact fun hm => hn ((isInfix_trim part).subset hm)
      simp only [List.mem_append, not_or] at hone
      refine ⟨isWord_trim hone.1 hlabel, isWord_trim hone.2.2 hnext, ?_⟩
      rw [String.toList_ofList]
      exact fun hi => harrow (hi.trans (isInfix_trim label))

/-- The texts of an item. -/
def Item.texts : Item → List String
  | .start id | .state id => [id]
  | .text body => [body]
  | .choice c => [c.label, c.next]
  | .nothing | .endState => []

/-- A text of an item has the characters of its lines, and newlines. -/
theorem Stands.mem_of_mem_texts {ls : List (List Char)} {item : Item} (h : Stands ls item)
    {s : String} (hs : s ∈ item.texts) {c : Char} (hc : c ∈ s.toList) :
    c = '\n' ∨ ∃ l ∈ ls, c ∈ l := by
  have hbody : ∀ {l body : List Char}, (Directive.ofLine l).body? = some body → body ⊆ l := by
    intro l body hb
    obtain ⟨part, hp, rfl⟩ := exists_infix_of_body? hb
    exact ((isInfix_trim part).trans hp).subset
  cases h with
  | nothing _ => cases hs
  | unknown _ => cases hs
  | endState _ => cases hs
  | @start l id hl =>
      cases List.mem_singleton.1 hs
      rw [String.toList_ofList] at hc
      exact .inr ⟨l, List.mem_singleton_self l, hbody (by rw [hl]; rfl) hc⟩
  | @state l id hl =>
      cases List.mem_singleton.1 hs
      rw [String.toList_ofList] at hc
      exact .inr ⟨l, List.mem_singleton_self l, hbody (by rw [hl]; rfl) hc⟩
  | text ho _ =>
      cases List.mem_singleton.1 hs
      exact (ho.mem_body hc).imp_right fun ⟨l, hl, hm⟩ => ⟨l, List.mem_append_left _ hl, hm⟩
  | @choice l body label next hl hsplit _ _ =>
      obtain ⟨rfl, -⟩ := splitArrow_eq_some hsplit
      refine .inr ⟨l, List.mem_singleton_self l, hbody (by rw [hl]; rfl) ?_⟩
      rcases List.mem_pair.1 hs with rfl | rfl
      · rw [String.toList_ofList] at hc
        exact List.mem_append_left _ ((isInfix_trim label).subset hc)
      · rw [String.toList_ofList] at hc
        exact List.mem_append_right _ (List.mem_append_right _ ((isInfix_trim next).subset hc))

/-- The items of an outline are as its lines make them. -/
theorem Outline.forall_mem {P : Item → Prop} {Q : List Char → Prop} {line : Nat}
    {ls : List (List Char)} {items : List (Nat × Item)} (h : Outline line ls items)
    (hls : ∀ l ∈ ls, Q l)
    (hstands : ∀ {front item}, Stands front item → (∀ l ∈ front, Q l) → P item)
    (hopens : ∀ {front body}, OpensText front body → (∀ l ∈ front, Q l) → P (.text body)) :
    ∀ item ∈ items, P item.2 := by
  induction h with
  | nil line => simp
  | cons hs _ ih =>
      obtain ⟨hfront, hrest⟩ := List.forall_mem_append.1 hls
      exact List.forall_mem_cons.2 ⟨hstands hs hfront, ih hrest⟩
  | unclosed ho => exact List.forall_mem_singleton.2 (hopens ho hls)

/-! ## What blocks hold -/

/-- The last of some texts of items is that of an item, or empty. -/
theorem getLast?_getD_filterMap (f : Item → Option String) (items : List (Nat × Item)) :
    (items.filterMap fun item => f item.2).getLast?.getD "" = "" ∨
      ∃ item ∈ items,
        f item.2 = some ((items.filterMap fun item => f item.2).getLast?.getD "") := by
  cases hlast : (items.filterMap fun item => f item.2).getLast? with
  | none => exact .inl rfl
  | some text => exact .inr (List.mem_filterMap.1 (List.mem_of_getLast? hlast))

/-- A block has its id from a state line, and its items are items of the script. -/
theorem of_mem_blocks {items : List (Nat × Item)} {b : Block} (h : b ∈ blocks items) :
    (∃ line, (line, .state b.id) ∈ items) ∧ b.items ⊆ items := by
  induction items with
  | nil => cases h
  | cons item items ih =>
      have hlater : b ∈ blocks items →
          (∃ line, (line, .state b.id) ∈ item :: items) ∧ b.items ⊆ item :: items := fun hb =>
        ⟨(ih hb).1.imp fun _ hm => List.mem_cons_of_mem _ hm,
          List.subset_cons_of_subset _ (ih hb).2⟩
      obtain ⟨line, item⟩ := item
      cases item with
      | state id =>
          rcases List.mem_cons.1 h with rfl | h
          · exact ⟨⟨line, List.mem_cons_self ..⟩,
              List.subset_cons_of_subset _ (List.takeWhile_sublist _).subset⟩
          · exact hlater h
      | nothing => exact hlater h
      | start id => exact hlater h
      | text body => exact hlater h
      | choice choice => exact hlater h
      | endState => exact hlater h

theorem mem_of_mem_gather {nodes : List Node} {node : Node} (h : node ∈ gather nodes) :
    node ∈ nodes := (List.mem_filter.1 (List.mem_of_getLast? (getLast?_of_mem_gather h))).1

/-- A node made of items that can be written can be written, if it has an id. -/
theorem Block.writable {items : List (Nat × Item)} (hitems : ∀ item ∈ items, item.2.Writable)
    {b : Block} (hb : b ∈ blocks items) (hid : b.id ≠ "") : b.node.Writable := by
  obtain ⟨⟨line, hstate⟩, hsub⟩ := of_mem_blocks hb
  have hstate' : IsTrimmed b.id := hitems _ hstate
  refine ⟨hstate'.isWord hid, ?_, ?_⟩
  · intro c hc
    obtain ⟨⟨line, item⟩, hm, hchoice⟩ := List.mem_filterMap.1 hc
    have hitem := hitems _ (hsub hm)
    cases item with
    | choice choice =>
        cases hchoice
        exact hitem
    | _ => cases hchoice
  · rcases getLast?_getD_filterMap Item.text? b.items with hempty | ⟨⟨line, item⟩, hm, htext⟩
    · show ∀ l ∈ pieces b.text.toList, trim l ≠ closeMark
      rw [Block.text, hempty]
      decide
    · have hitem := hitems _ (hsub hm)
      cases item with
      | text body =>
          cases htext
          exact hitem
      | _ => cases htext

/-- The texts of a node: its id, its body, and the labels and targets of its choices. -/
def Node.texts (node : Node) : List String :=
  node.id :: node.text :: node.choices.flatMap fun c => [c.label, c.next]

/-- The texts of a graph. -/
def Graph.texts (g : Graph) : List String := g.start :: g.nodes.flatMap Node.texts

/-- A text of a block is one of an item, or empty. -/
theorem Block.mem_texts {items : List (Nat × Item)} {b : Block} (hb : b ∈ blocks items)
    {s : String} (hs : s ∈ b.node.texts) : s = "" ∨ ∃ item ∈ items, s ∈ item.2.texts := by
  obtain ⟨⟨line, hstate⟩, hsub⟩ := of_mem_blocks hb
  rcases List.mem_cons.1 hs with rfl | hs
  · exact .inr ⟨_, hstate, List.mem_singleton_self _⟩
  rcases List.mem_cons.1 hs with rfl | hs
  · rcases getLast?_getD_filterMap Item.text? b.items with hempty | ⟨⟨line, item⟩, hm, htext⟩
    · exact .inl hempty
    · cases item with
      | text body =>
          cases htext
          exact .inr ⟨_, hsub hm, List.mem_singleton_self _⟩
      | _ => cases htext
  · obtain ⟨c, hc, hs⟩ := List.mem_flatMap.1 hs
    obtain ⟨⟨line, item⟩, hm, hchoice⟩ := List.mem_filterMap.1 hc
    cases item with
    | choice c' =>
        cases hchoice
        exact .inr ⟨_, hsub hm, hs⟩
    | _ => cases hchoice

/-- A text in the graph of a script is one of an item, or empty. -/
theorem Graph.mem_texts {g : Graph} {items : List (Nat × Item)}
    (hnodes : g.nodes = gather (((blocks items).map Block.node).filter fun node => node.id ≠ ""))
    (hnamed : startOf items ≠ "" → g.start = startOf items)
    (hfirst : startOf items = "" → (g.nodes.map Node.id).head? = some g.start)
    {s : String} (hs : s ∈ g.texts) : s = "" ∨ ∃ item ∈ items, s ∈ item.2.texts := by
  have hall : ∀ node ∈ g.nodes, ∀ s ∈ node.texts, s = "" ∨ ∃ item ∈ items, s ∈ item.2.texts := by
    intro node hn s hs
    rw [hnodes] at hn
    obtain ⟨b, hb, rfl⟩ := List.mem_map.1 (List.mem_filter.1 (mem_of_mem_gather hn)).1
    exact Block.mem_texts hb hs
  rcases List.mem_cons.1 hs with rfl | hs
  · by_cases hstart : startOf items = ""
    · -- the start is the id of the first node
      obtain ⟨node, hn, hid⟩ := List.mem_map.1 (List.mem_of_mem_head? (hfirst hstart))
      exact hid ▸ hall node hn node.id (List.mem_cons_self ..)
    · rw [hnamed hstart]
      rcases getLast?_getD_filterMap Item.start? items with hempty | ⟨⟨line, item⟩, hm, hitem⟩
      · exact absurd hempty hstart
      · cases item with
        | start id =>
            cases hitem
            exact .inr ⟨_, hm, List.mem_singleton_self _⟩
        | _ => cases hitem
  · obtain ⟨node, hn, hs⟩ := List.mem_flatMap.1 hs
    exact hall node hn s hs

/-! ## The graph of a script -/

/-- A script that is read has an outline, and its graph is made of the blocks. -/
theorem exists_outline_of_read {source : String} {g : Graph} (h : (read source).value = .ok g) :
    ∃ items, Outline 1 (lines source.toList) items ∧
      g.nodes = gather (((blocks items).map Block.node).filter fun node => node.id ≠ "") ∧
      (startOf items ≠ "" → g.start = startOf items) ∧
      (startOf items = "" → (g.nodes.map Node.id).head? = some g.start) := by
  obtain ⟨items, ho⟩ := (exists_outline_iff (lines source.toList)).2 fun fault hfault => by
    rw [read, hfault] at h
    cases h
  obtain ⟨hnodes, hnamed, hfirst⟩ := Graph.started_eq_ok (ho.value_readLines.symm.trans h)
  rw [Reading.nodes_afterAll items {}] at hnodes
  rw [Reading.start_afterAll items {}] at hnamed hfirst
  exact ⟨items, ho, hnodes.trans (foldl_put _), hnamed, hfirst⟩

/-- A graph that is made of items that can be written can be written. -/
theorem Graph.writable_of_items {g : Graph} {items : List (Nat × Item)}
    (hitems : ∀ item ∈ items, item.2.Writable)
    (hnodes : g.nodes = gather (((blocks items).map Block.node).filter fun node => node.id ≠ ""))
    (hnamed : startOf items ≠ "" → g.start = startOf items)
    (hfirst : startOf items = "" → (g.nodes.map Node.id).head? = some g.start) : g.Writable := by
  have hall : ∀ node ∈ g.nodes, node.Writable := by
    intro node hn
    rw [hnodes] at hn
    obtain ⟨hn, hid⟩ := List.mem_filter.1 (mem_of_mem_gather hn)
    obtain ⟨b, hb, rfl⟩ := List.mem_map.1 hn
    exact Block.writable hitems hb (of_decide_eq_true hid)
  refine ⟨?_, hall, hnodes ▸ nodup_gather _⟩
  by_cases hs : startOf items = ""
  · -- the start is the id of the first node
    obtain ⟨node, hn, hid⟩ := List.mem_map.1 (List.mem_of_mem_head? (hfirst hs))
    exact hid ▸ (hall node hn).id
  · rw [hnamed hs]
    rcases getLast?_getD_filterMap Item.start? items with hempty | ⟨⟨line, item⟩, hm, hstart⟩
    · exact absurd hempty hs
    · have hitem := hitems _ hm
      cases item with
      | start id =>
          cases hstart
          exact IsTrimmed.isWord hitem hs
      | _ => cases hstart

/-- The graph of a script can be written. -/
theorem writable_of_read {source : String} {g : Graph} (h : (read source).value = .ok g) :
    g.Writable := by
  obtain ⟨items, ho, hnodes, hnamed, hfirst⟩ := exists_outline_of_read h
  have hitems := ho.forall_mem (fun l hl => newline_not_mem_of_mem_lines hl) Stands.writable
    OpensText.writable
  exact Graph.writable_of_items hitems hnodes hnamed hfirst

/-- A text in the graph of a script has the characters of the script, and newlines. -/
theorem mem_of_mem_texts {source : String} {g : Graph} (h : (read source).value = .ok g)
    {s : String} (hs : s ∈ g.texts) {c : Char} (hc : c ∈ s.toList) :
    c = '\n' ∨ c ∈ source.toList := by
  obtain ⟨items, ho, hnodes, hnamed, hfirst⟩ := exists_outline_of_read h
  have hitems : ∀ item ∈ items, ∀ s ∈ item.2.texts, ∀ c ∈ s.toList,
      c = '\n' ∨ c ∈ source.toList := by
    refine ho.forall_mem (P := fun item => ∀ s ∈ item.texts, ∀ c ∈ s.toList,
      c = '\n' ∨ c ∈ source.toList) (fun l hl => subset_of_mem_lines hl) ?_ ?_
    · intro front item hstands hfront s hs c hc
      exact (hstands.mem_of_mem_texts hs hc).imp_right fun ⟨l, hl, hm⟩ => hfront l hl hm
    · intro front body hopens hfront s hs c hc
      cases List.mem_singleton.1 hs
      exact (hopens.mem_body hc).imp_right fun ⟨l, hl, hm⟩ => hfront l hl hm
  rcases Graph.mem_texts hnodes hnamed hfirst hs with rfl | ⟨item, hm, hs⟩
  · cases hc
  · exact hitems item hm s hs c hc

/-- Where the script has no carriage return its graph has none. -/
theorem return_not_mem_texts {source : String} {g : Graph} (h : (read source).value = .ok g)
    (hr : '\r' ∉ source.toList) : ∀ s ∈ g.texts, '\r' ∉ s.toList := by
  intro s hs hm
  rcases mem_of_mem_texts h hs hm with he | hm
  · cases he
  · exact hr hm

theorem noReturns_of_read {source : String} {g : Graph} (h : (read source).value = .ok g)
    (hr : '\r' ∉ source.toList) : g.NoReturns := by
  intro node hn l hl hlast
  have htext : node.text ∈ g.texts :=
    List.mem_cons_of_mem _ (List.mem_flatMap.2 ⟨node, hn, by simp [Node.texts]⟩)
  exact return_not_mem_texts h hr _ htext (subset_of_mem_pieces hl (List.mem_of_getLast? hlast))

/-- With different ids every node is found, and under its own id only. -/
theorem Graph.get?_eq_some_iff {g : Graph} (h : (g.nodes.map Node.id).Nodup) {id : String}
    {node : Node} : g.get? id = some node ↔ node ∈ g.nodes ∧ node.id = id := by
  constructor
  · exact fun hn => ⟨mem_of_get? hn, id_of_get? hn⟩
  · rintro ⟨hn, rfl⟩
    cases hfound : g.get? node.id with
    | none =>
        have hnone := List.find?_eq_none.1 hfound node hn
        simp at hnone
    | some other =>
        rw [List.inj_on_of_nodup_map h (mem_of_get? hfound) hn (id_of_get? hfound)]

/-- The graph of a script can be written.  An id finds the node that has it and no
other.  A script without carriage returns is read, once it is written again, as the
same graph. -/
theorem read_writable {source : String} {g : Graph} (h : (read source).value = .ok g) :
    g.Writable ∧
      (∀ id node, g.get? id = some node ↔ node ∈ g.nodes ∧ node.id = id) ∧
      ('\r' ∉ source.toList → ∀ ended, (read (g.write ended)).value = .ok g) := by
  have hw := writable_of_read h
  refine ⟨hw, fun id node => Graph.get?_eq_some_iff hw.distinct, fun hr ended => ?_⟩
  rw [read, Graph.write, String.toList_ofList,
    lines_written (lasts_lines hw (noReturns_of_read h hr) ended)]
  exact value_readLines_lines hw ended

/-- A script without a start line, with two states of one id and one without an id, a
label that ends like an arrow begins, a target with an arrow, and a body that is not
closed. -/
def untidy : String :=
  "# a\nstate:  a \ntext:\n<<<\nold\n>>>\nstate:\noption: Lost -> b\nstate: b\n" ++
    "option:  go --> a -> b\nstate: a\noption:x->END\ntext:\n<<<\n >> > \nendstate\n"

/-- The graph of that script. -/
def untidyGraph : Graph where
  start := "a"
  nodes := [
    { id := "a", text := " >> > \nendstate", choices := [⟨"x", "END"⟩] },
    { id := "b", choices := [⟨"go -", "a -> b"⟩] }]

theorem read_writable_untidy :
    (read untidy).value = .ok untidyGraph ∧ '\r' ∉ untidy.toList ∧ untidyGraph.Writable ∧
      (∀ id node, untidyGraph.get? id = some node ↔ node ∈ untidyGraph.nodes ∧ node.id = id) ∧
      ∀ ended, (read (untidyGraph.write ended)).value = .ok untidyGraph := by
  have hread : (read untidy).value = .ok untidyGraph := by decide +kernel
  have hreturn : '\r' ∉ untidy.toList := by decide +kernel
  obtain ⟨hw, hget, hagain⟩ := read_writable hread
  exact ⟨hread, hreturn, hw, hget, hagain hreturn⟩

end Colloquy.Script
