import Colloquy.Script.Check
import Colloquy.Script.Path

/-!
# What the check of a graph finds

The walk sees the ids of the nodes on paths from the start and no others
(`mem_reached_iff`).  It sees nothing else because what it puts into the queue
are targets of nodes it has seen (`walk_induction`).  It misses nothing because
each target of a node it has seen is seen as well or still in the queue
(`Covered`), and at the end the queue is empty.

Each kind of issue is then read off the graph: `missingStart_mem_issues`,
`danglingTarget_mem_issues` and `unreachable_mem_issues`.
-/

namespace Colloquy.Script.Graph

variable {g : Graph} {seen queue : List String}

theorem contains_iff {id : String} : g.contains id = true ↔ ∃ node, g.get? id = some node := by
  rw [← Option.isSome_iff_exists, get?, List.find?_isSome, contains, List.any_eq_true]

theorem not_contains_iff {id : String} : g.contains id = false ↔ g.get? id = none := by
  rw [← Bool.not_eq_true, contains_iff, Option.eq_none_iff_forall_ne_some]
  simp

/-! ## The walk -/

/-- What holds of the ids a walk starts with and goes over from the id of a node
to the targets of its choices holds of every id seen. -/
theorem walk_induction {P : String → Prop}
    (hstep : ∀ id node choice, g.get? id = some node → P id → choice ∈ node.choices →
      P choice.next)
    (hseen : ∀ id ∈ seen, P id) (hqueue : ∀ id ∈ queue, P id) :
    ∀ id ∈ g.walk seen queue, P id := by
  fun_induction walk g seen queue with
  | case1 seen => exact hseen
  | case2 seen id rest _ ih => exact ih hseen (fun q hq => hqueue q (.tail _ hq))
  | case3 seen id rest _ _ ih => exact ih hseen (fun q hq => hqueue q (.tail _ hq))
  | case4 seen id rest _ node hn ih =>
      have hid : P id := hqueue id (.head _)
      refine ih (fun q hq => ?_) (fun q hq => ?_)
      · rcases List.mem_cons.1 hq with rfl | hq
        · exact hid
        · exact hseen q hq
      · rcases List.mem_append.1 hq with hq | hq
        · exact hqueue q (.tail _ hq)
        · obtain ⟨choice, hc, rfl⟩ := List.mem_map.1 hq
          exact hstep id node choice hn hid hc

theorem subset_walk : seen ⊆ g.walk seen queue := by
  fun_induction walk g seen queue with
  | case1 seen => exact List.Subset.refl _
  | case2 seen id rest _ ih => exact ih
  | case3 seen id rest _ _ ih => exact ih
  | case4 seen id rest _ node _ ih => exact List.Subset.trans (List.subset_cons_self ..) ih

/-- The ids of nodes in the queue are seen in the end. -/
theorem mem_walk_of_mem_queue {id : String} {node : Node} (hn : g.get? id = some node)
    (h : id ∈ queue) : id ∈ g.walk seen queue := by
  fun_induction walk g seen queue with
  | case1 seen => cases h
  | case2 seen q rest hs ih =>
      rcases List.mem_cons.1 h with rfl | h
      · exact subset_walk hs
      · exact ih h
  | case3 seen q rest _ hq ih =>
      rcases List.mem_cons.1 h with rfl | h
      · rw [hn] at hq
        cases hq
      · exact ih h
  | case4 seen q rest _ _ _ ih =>
      rcases List.mem_cons.1 h with rfl | h
      · exact subset_walk (.head _)
      · exact ih (List.mem_append_left _ h)

/-- The ids seen name nodes, and wherever a choice of these leads to a node, that
one is seen as well or in the queue. -/
def Covered (g : Graph) (seen queue : List String) : Prop :=
  ∀ id ∈ seen, ∃ node, g.get? id = some node ∧
    ∀ choice ∈ node.choices, ∀ target, g.get? choice.next = some target →
      choice.next ∈ seen ∨ choice.next ∈ queue

/-- An id that is seen, or names no node, can leave the queue. -/
theorem Covered.dequeue {q : String} {rest : List String} (h : g.Covered seen (q :: rest))
    (hq : ∀ target, g.get? q = some target → q ∈ seen) : g.Covered seen rest := by
  intro id hid
  obtain ⟨node, hn, hnext⟩ := h id hid
  refine ⟨node, hn, fun choice hc target ht => ?_⟩
  rcases hnext choice hc target ht with hseen | hqueue
  · exact .inl hseen
  · rcases List.mem_cons.1 hqueue with he | hrest
    · rw [he] at ht ⊢
      exact .inl (hq target ht)
    · exact .inr hrest

theorem covered_walk (h : g.Covered seen queue) : g.Covered (g.walk seen queue) [] := by
  fun_induction walk g seen queue with
  | case1 seen => exact h
  | case2 seen q rest hs ih => exact ih (h.dequeue fun _ _ => hs)
  | case3 seen q rest _ hq ih =>
      refine ih (h.dequeue fun target ht => ?_)
      rw [hq] at ht
      cases ht
  | case4 seen q rest _ found hq ih =>
      refine ih (fun id hid => ?_)
      rcases List.mem_cons.1 hid with rfl | hid
      · refine ⟨found, hq, fun choice hc _ _ => .inr ?_⟩
        exact List.mem_append_right _ (List.mem_map_of_mem hc)
      · obtain ⟨node, hn, hnext⟩ := h id hid
        refine ⟨node, hn, fun choice hc target ht => ?_⟩
        rcases hnext choice hc target ht with hseen | hqueue
        · exact .inl (.tail _ hseen)
        · rcases List.mem_cons.1 hqueue with he | hrest
          · exact .inl (he ▸ .head _)
          · exact .inr (List.mem_append_left _ hrest)

/-! ## The nodes reached -/

theorem covered_reached : g.Covered g.reached [] :=
  covered_walk (fun _ h => absurd h List.not_mem_nil)

/-- A node on a path is the one its id names, and its id is seen. -/
theorem get?_and_mem_reached_of_onPath {node : Node} (h : g.OnPath node) :
    g.get? node.id = some node ∧ node.id ∈ g.reached := by
  obtain ⟨first, hfirst, hleads⟩ := h
  induction hleads with
  | here =>
      rw [id_of_get? hfirst]
      exact ⟨hfirst, mem_walk_of_mem_queue hfirst (.head _)⟩
  | choice _ hc hk ih =>
      obtain ⟨hm, hseen⟩ := ih
      obtain ⟨m, hm', hnext⟩ := covered_reached _ hseen
      rw [hm] at hm'
      cases hm'
      rw [id_of_get? hk]
      refine ⟨hk, ?_⟩
      rcases hnext _ hc _ hk with h | h
      · exact h
      · cases h

/-- The ids seen on the walk are those of the nodes on paths from the start. -/
theorem mem_reached_iff {id : String} :
    id ∈ g.reached ↔ ∃ node, g.get? id = some node ∧ g.OnPath node := by
  constructor
  · intro h
    obtain ⟨node, hn, _⟩ := covered_reached id h
    have hpath : ∀ id ∈ g.reached, ∀ node, g.get? id = some node → g.OnPath node := by
      refine walk_induction (fun id m choice hm hp hc k hk => ?_) (fun _ h => ?_) (fun q hq => ?_)
      · obtain ⟨first, hfirst, hleads⟩ := hp m hm
        exact ⟨first, hfirst, hleads.choice hc hk⟩
      · cases h
      · cases List.mem_singleton.1 hq
        exact fun n hn => ⟨n, hn, .here n⟩
    exact ⟨node, hn, hpath id h node hn⟩
  · rintro ⟨node, hn, hp⟩
    rw [← id_of_get? hn]
    exact (get?_and_mem_reached_of_onPath hp).2

/-! ## The issues -/

variable {word : String}

theorem missingStart_mem_issues {start : String} :
    .missingStart start ∈ g.issues word ↔ start = g.start ∧ g.get? g.start = none := by
  rw [← not_contains_iff]
  cases h : g.contains g.start <;> simp [issues, danglingOf, h]

/-- The choices of a node that lead nowhere, by their indices. -/
theorem danglingTarget_mem_danglingOf {node : Node} {state target : String} {option : Nat} :
    .danglingTarget state option target ∈ g.danglingOf word node ↔
      node.id = state ∧ ∃ choice, node.choices[option]? = some choice ∧
        choice.next = target ∧ target ≠ word ∧ g.get? target = none := by
  simp only [danglingOf, List.mem_filterMap, Prod.exists, List.mem_zipIdx_iff_getElem?,
    Bool.not_eq_true, not_contains_iff]
  constructor
  · rintro ⟨choice, i, hc, h⟩
    split at h
    next hd =>
      cases h
      exact ⟨rfl, choice, hc, rfl, hd⟩
    next => cases h
  · rintro ⟨rfl, choice, hc, rfl, hd⟩
    exact ⟨choice, option, hc, if_pos hd⟩

theorem danglingTarget_mem_issues {state target : String} {option : Nat} :
    .danglingTarget state option target ∈ g.issues word ↔
      ∃ node ∈ g.nodes, node.id = state ∧ ∃ choice, node.choices[option]? = some choice ∧
        choice.next = target ∧ target ≠ word ∧ g.get? target = none := by
  cases h : g.contains g.start <;> simp [issues, h, danglingTarget_mem_danglingOf]

theorem unreachable_mem_issues {state : String} :
    .unreachable state ∈ g.issues word ↔
      state ∉ g.reached ∧ ∃ node ∈ g.nodes, node.id = state := by
  have hnot : ∀ node : Node, .unreachable state ∉ g.danglingOf word node := by
    intro node h
    simp [danglingOf] at h
  have hiff : .unreachable state ∈ g.issues word ↔
      ∃ node, (node ∈ g.nodes ∧ node.id ∉ g.reached) ∧ node.id = state := by
    cases h : g.contains g.start <;> simp [issues, h, hnot]
  rw [hiff]
  constructor
  · rintro ⟨node, ⟨hn, hr⟩, rfl⟩
    exact ⟨hr, node, hn, rfl⟩
  · rintro ⟨hr, node, hn, rfl⟩
    exact ⟨node, ⟨hn, hr⟩, rfl⟩

end Colloquy.Script.Graph
