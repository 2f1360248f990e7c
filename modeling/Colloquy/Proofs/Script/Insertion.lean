import Colloquy.Proofs.Script.FirstFault

/-!
# Lines that stand for nothing

Blank lines, comments and lines that are no directive can be put in between two lines
of a script wherever no text block is open or announced.  The graph stays as it is.  So
does the fault if there is one, but for its line, which comes later if it is behind the
new lines (`read_insert`).

There is nothing to show about the new lines but that the reader stays as it is.  What
takes work is that the reader does the same behind them under other numbers
(`Reading.value_finishFrom_later`).
-/

namespace Colloquy.Script

open Colloquy.Text

/-! ## Idle lines -/

/-- A trimmed line that stands for nothing at the top level: it is empty, a comment, or no
directive. -/
def Idle (t : List Char) : Prop :=
  t = [] ∨ (['#'] <+: t ∨ ['/', '/'] <+: t) ∨
    ¬ startKey <+: t ∧ ¬ stateKey <+: t ∧ ¬ choiceKey <+: t ∧ t ≠ textKey ∧ t ≠ endKey

instance (t : List Char) : Decidable (Idle t) :=
  inferInstanceAs (Decidable (t = [] ∨ (['#'] <+: t ∨ ['/', '/'] <+: t) ∨
    ¬ startKey <+: t ∧ ¬ stateKey <+: t ∧ ¬ choiceKey <+: t ∧ t ≠ textKey ∧ t ≠ endKey))

theorem ofLine_of_idle {line : List Char} (h : Idle (trim line)) :
    Directive.ofLine line = .nothing ∨ Directive.ofLine line = .unknown := by
  rw [Directive.ofLine]
  rcases h with he | hc | ⟨hstart, hstate, hchoice, htext, hend⟩
  · exact .inl (if_pos (.inl he))
  · refine .inl (if_pos (.inr ?_))
    rwa [isComment, Bool.or_eq_true, List.isPrefixOf_iff_prefix, List.isPrefixOf_iff_prefix]
  · simp only [isPrefixOf?_eq_none hstart, isPrefixOf?_eq_none hstate,
      isPrefixOf?_eq_none hchoice, if_neg htext, if_neg hend]
    split
    · exact .inl rfl
    · exact .inr rfl

namespace Reading

/-- An idle line at the top level leaves the reader as it is. -/
theorem value_step_of_idle {r : Reading} {n : Nat} {line : List Char} (hp : r.position = .top)
    (h : Idle (trim line)) : (r.step n line).value = .ok r := by
  rw [step, hp]
  rcases ofLine_of_idle h with hd | hd
  · rw [hd]
    rfl
  · rw [hd]
    rfl

theorem value_steps_of_idle {r : Reading} {ls : List (List Char)} (hp : r.position = .top)
    (h : ∀ l ∈ ls, Idle (trim l)) : ∀ n, (r.steps n ls).value = .ok r := by
  induction ls with
  | nil => exact fun n => rfl
  | cons l ls ih =>
      intro n
      obtain ⟨hl, hls⟩ := List.forall_mem_cons.1 h
      rw [steps, value_andThen _ (value_step_of_idle hp hl)]
      exact ih hls (n + 1)

end Reading

/-! ## The same with other numbers -/

/-- The fault with another number for its line. -/
def Fault.mapLine (f : Nat → Nat) : Fault → Fault
  | .endAfterText n => .endAfterText (f n)
  | .missingOpen n => .missingOpen (f n)
  | .missingArrow n => .missingArrow (f n)
  | .emptyPart n => .emptyPart (f n)
  | .noStates => .noStates

theorem Fault.line?_mapLine (f : Nat → Nat) (fault : Fault) :
    (fault.mapLine f).line? = fault.line?.map f := by
  cases fault <;> rfl

theorem Fault.mapLine_id (fault : Fault) : fault.mapLine id = fault := by
  cases fault <;> rfl

/-- Nothing depends on the numbers of other lines. -/
theorem Fault.mapLine_congr {f g : Nat → Nat} {fault : Fault}
    (h : ∀ n ∈ fault.line?, f n = g n) : fault.mapLine f = fault.mapLine g := by
  cases fault with
  | noStates => rfl
  | _ n => exact congrArg _ (h n rfl)

/-- Where the reader stands when there are more lines in front of the script. -/
def Position.later (k : Nat) : Position → Position
  | .top => .top
  | .announced textLine => .announced (textLine + k)
  | .inside textLine openLine body => .inside (textLine + k) (openLine + k) body

namespace Reading

/-- What the reader holds when there are more lines in front of the script. -/
def later (k : Nat) (r : Reading) : Reading := { r with position := r.position.later k }

theorem later_of_top {r : Reading} (h : r.position = .top) (k : Nat) : r.later k = r := by
  obtain ⟨graph, current, position⟩ := r
  cases h
  rfl

/-- What becomes of a step when there are more lines in front of the script. -/
def outcomeLater (k : Nat) (x : Except Fault Reading) : Except Fault Reading :=
  (x.map (later k)).mapError (Fault.mapLine (· + k))

theorem commit_later (r : Reading) (k : Nat) :
    ((r.later k).commit).value = r.commit.value.later k := by
  rw [value_commit, value_commit]
  rfl

theorem addChoice_later (r : Reading) (n k : Nat) (choice : Choice) :
    ((r.later k).addChoice (n + k) choice).value = (r.addChoice n choice).value.later k := by
  obtain ⟨graph, current, position⟩ := r
  cases current with
  | none => rfl
  | some node => rfl

theorem setText_later (r : Reading) (n k : Nat) (body : List (List Char)) :
    ((r.later k).setText (n + k) body).value = (r.setText n body).value.later k := by
  obtain ⟨graph, current, position⟩ := r
  cases current with
  | none => rfl
  | some node => rfl

theorem readChoice_later (body : List Char) (n k : Nat) :
    readChoice body (n + k) = (readChoice body n).mapError (Fault.mapLine (· + k)) := by
  rw [readChoice, readChoice]
  cases splitArrow body with
  | none => rfl
  | some parts =>
      simp only
      split
      · rfl
      · rfl

theorem obey_later (r : Reading) (n k : Nat) (d : Directive) :
    ((r.later k).obey (n + k) d).value = outcomeLater k (r.obey n d).value := by
  cases d with
  | nothing => rfl
  | start id => rfl
  | text => rfl
  | unknown => rfl
  | state id =>
      show Except.ok _ = Except.ok _
      rw [commit_later]
      rfl
  | endState =>
      show Except.ok _ = Except.ok _
      rw [commit_later]
  | choice body =>
      rw [obey, obey, readChoice_later]
      cases readChoice body n with
      | error fault => rfl
      | ok choice =>
          show Except.ok _ = Except.ok _
          rw [addChoice_later]

/-- The reader does the same on a line under a later number. -/
theorem step_later (r : Reading) (n k : Nat) (line : List Char) :
    ((r.later k).step (n + k) line).value = outcomeLater k (r.step n line).value := by
  obtain ⟨graph, current, position⟩ := r
  cases position with
  | top => exact obey_later ..
  | announced textLine =>
      simp only [step, later, Position.later]
      split
      · rfl
      · rfl
  | inside textLine openLine body =>
      simp only [step, later, Position.later]
      split
      · exact congrArg Except.ok
          (setText_later ⟨graph, current, .inside textLine openLine body⟩ textLine k body)
      · rfl

theorem closeBlock_later (r : Reading) (k : Nat) :
    (r.later k).closeBlock.value = outcomeLater k r.closeBlock.value := by
  obtain ⟨graph, current, position⟩ := r
  cases position with
  | top => rfl
  | announced textLine => rfl
  | inside textLine openLine body => exact congrArg Except.ok (setText_later ..)

/-! ## The rest of a script -/

/-- The graph of a script whose first lines have been read, given the other lines. -/
def finishFrom (r : Reading) (n : Nat) (ls : List (List Char)) : Logged (Except Fault Graph) :=
  (r.steps n ls).andThen finish

theorem finishFrom_cons (r : Reading) (n : Nat) (l : List Char) (ls : List (List Char)) :
    r.finishFrom n (l :: ls) = (r.step n l).andThen fun r' => r'.finishFrom (n + 1) ls :=
  andThen_assoc ..

theorem finishFrom_append (r : Reading) (n : Nat) (ls ms : List (List Char)) :
    r.finishFrom n (ls ++ ms) =
      (r.steps n ls).andThen fun r' => r'.finishFrom (n + ls.length) ms := by
  rw [finishFrom, steps_append, andThen_assoc]
  rfl

theorem finish_later (r : Reading) (k : Nat) :
    (r.later k).finish.value = r.finish.value.mapError (Fault.mapLine (· + k)) := by
  rw [finish, finish, value_andThen_eq_bind, value_andThen_eq_bind, closeBlock_later]
  cases r.closeBlock.value with
  | error fault => rfl
  | ok r' =>
      show (r'.later k).commit.value.graph.started = r'.commit.value.graph.started.mapError _
      rw [commit_later]
      cases hs : r'.commit.value.graph.started with
      | ok g => exact hs
      | error fault =>
          obtain rfl := started_eq_error hs
          exact hs

/-- What is read on has nothing to do with the lines before, but for the numbers. -/
theorem value_finishFrom_later (r : Reading) (k : Nat) (ls : List (List Char)) :
    ∀ n, ((r.later k).finishFrom (n + k) ls).value =
      (r.finishFrom n ls).value.mapError (Fault.mapLine (· + k)) := by
  induction ls generalizing r with
  | nil => exact fun n => finish_later r k
  | cons l ls ih =>
      intro n
      rw [finishFrom_cons, finishFrom_cons, value_andThen_eq_bind, value_andThen_eq_bind,
        step_later]
      cases (r.step n l).value with
      | error fault => rfl
      | ok r' =>
          show ((r'.later k).finishFrom (n + k + 1) ls).value = _
          rw [Nat.add_right_comm, ih]
          rfl

/-- Behind lines that leave the reader at the top level only later lines are at fault. -/
theorem lt_of_value_finishFrom {r : Reading} {n m : Nat} {ls : List (List Char)} {fault : Fault}
    (hp : r.position = .top) (h : (r.finishFrom (n + 1) ls).value = .error fault)
    (hm : fault.line? = some m) : n < m := by
  -- the reader does the same from the number zero on
  have hshift := value_finishFrom_later r (n + 1) ls 0
  rw [later_of_top hp, Nat.zero_add, h] at hshift
  cases hbase : (r.finishFrom 0 ls).value with
  | ok g =>
      rw [hbase] at hshift
      cases hshift
  | error fault' =>
      rw [hbase] at hshift
      cases hshift
      rw [Fault.line?_mapLine] at hm
      obtain ⟨m', -, rfl⟩ := Option.map_eq_some_iff.1 hm
      exact Nat.lt_of_lt_of_le n.lt_succ_self (Nat.le_add_left ..)

/-- Idle lines in front of the rest of a script come to nothing but later lines. -/
theorem value_finishFrom_insert {r : Reading} {cs : List (List Char)} (hp : r.position = .top)
    (hidle : ∀ l ∈ cs, Idle (trim l)) (n : Nat) (ls : List (List Char)) :
    (r.finishFrom (n + 1) (cs ++ ls)).value = (r.finishFrom (n + 1) ls).value.mapError
      (Fault.mapLine fun m => if m ≤ n then m else m + cs.length) := by
  have hshift := value_finishFrom_later r cs.length ls (n + 1)
  rw [later_of_top hp] at hshift
  rw [finishFrom_append, value_andThen _ (value_steps_of_idle hp hidle _), hshift]
  cases hrest : (r.finishFrom (n + 1) ls).value with
  | ok g => rfl
  | error fault =>
      refine congrArg Except.error (Fault.mapLine_congr fun m hm => ?_)
      exact (if_neg (lt_of_value_finishFrom hp hrest hm).not_ge).symm

end Reading

/-! ## Lines put in -/

/-- A script is read from the state its first whole lines leave. -/
theorem value_read_append {front : String} (h : Whole front.toList) (rest : String) :
    (read (front ++ rest)).value = (Reading.steps {} 1 (lines front.toList)).value.bind fun r =>
      (r.finishFrom ((lines front.toList).length + 1) (lines rest.toList)).value := by
  rw [read, String.toList_append, lines_append h, Nat.add_comm, ← value_andThen_eq_bind,
    ← Reading.finishFrom_append]
  rfl

/-- Idle lines put in at the top level make no difference but for the numbers of the lines
behind them. -/
theorem read_insert {a c : String} (ha : Whole a.toList) (hc : Whole c.toList)
    (htop : placeAfter (trimmedLines a) = .top) (hidle : ∀ t ∈ trimmedLines c, Idle t)
    (b : String) :
    (read (a ++ c ++ b)).value = (read (a ++ b)).value.mapError (Fault.mapLine fun n =>
      if n ≤ (lines a.toList).length then n else n + (lines c.toList).length) := by
  rw [String.append_assoc, value_read_append ha, value_read_append ha, String.toList_append,
    lines_append hc]
  rcases Reading.steps_cases (lines a.toList) with ⟨r, hr, hp, -⟩ | ⟨fault, hr, i, hi, -⟩
  · rw [hr]
    exact Reading.value_finishFrom_insert (Position.eq_top_of_place (hp.trans htop))
      (List.forall_mem_map.1 hidle) _ _
  · -- the lines in front are refused already
    rw [hr]
    have hlength := hi.lt_length
    rw [List.length_map] at hlength
    refine congrArg Except.error (fault.mapLine_id.symm.trans (Fault.mapLine_congr fun m hm => ?_))
    cases hm.symm.trans hi.line?
    exact (if_pos hlength).symm

/-- A state with a body that looks like a comment. -/
def remarked : String := "state: a\ntext:\n<<<\n# Hi\n>>>\n"

/-- A blank line, a comment that looks like a choice, and a line that is no directive. -/
def remarks : String := " \n  // option:\ntextual\n"

/-- The remarks leave the graph alone, and put a fault behind them three lines off. -/
theorem read_insert_remarks :
    (read (remarked ++ remarks ++ "option: Go -> b")).value =
        .ok { nodes := [⟨"a", "# Hi", [⟨"Go", "b"⟩]⟩], start := "a" } ∧
      (read (remarked ++ "option: Go")).value = .error (.missingArrow 6) ∧
      (read (remarked ++ remarks ++ "option: Go")).value = .error (.missingArrow 9) := by
  have hinsert := @read_insert remarked remarks (by decide) (by decide) (by decide) (by decide)
  have hgraph : (read (remarked ++ "option: Go -> b")).value =
      .ok { nodes := [⟨"a", "# Hi", [⟨"Go", "b"⟩]⟩], start := "a" } := by decide
  have hfault : (read (remarked ++ "option: Go")).value = .error (.missingArrow 6) := by decide
  refine ⟨?_, hfault, ?_⟩
  · rw [hinsert, hgraph]
    rfl
  · rw [hinsert, hfault]
    decide

end Colloquy.Script
