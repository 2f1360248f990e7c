import Colloquy.Text.Slice

/-!
# What a slice is

A place lies between the characters of a text when the text divides there into
a part of that many bytes and a rest.  Between two such places, the first one
before the second, there is a slice, and it is not empty.
-/

namespace Colloquy.Text

/-! ## Byte sizes -/

@[simp] theorem byteSize_nil : byteSize [] = 0 := rfl

@[simp] theorem byteSize_cons (c : Char) (cs : List Char) :
    byteSize (c :: cs) = c.utf8Size + byteSize cs := rfl

@[simp] theorem byteSize_append (cs ds : List Char) :
    byteSize (cs ++ ds) = byteSize cs + byteSize ds := by
  induction cs with
  | nil => simp
  | cons c cs ih => simp [ih, Nat.add_assoc]

/-! ## Dividing a text at a place -/

/-- Dropping more than the first character drops that character. -/
theorem dropBytes_cons (c : Char) (cs : List Char) (n : Nat) :
    dropBytes (c.utf8Size + n) (c :: cs) = dropBytes n cs := by
  obtain ⟨k, hk⟩ := Nat.exists_eq_add_one_of_ne_zero (Nat.ne_of_gt c.utf8Size_pos)
  rw [hk, Nat.add_right_comm, dropBytes, hk, if_pos (by omega)]
  rw [show k + n + 1 - (k + 1) = n by omega]

/-- Taking more than the first character takes that character. -/
theorem takeBytes_cons (c : Char) (cs : List Char) (n : Nat) :
    takeBytes (c.utf8Size + n) (c :: cs) = (takeBytes n cs).map (c :: ·) := by
  obtain ⟨k, hk⟩ := Nat.exists_eq_add_one_of_ne_zero (Nat.ne_of_gt c.utf8Size_pos)
  rw [hk, Nat.add_right_comm, takeBytes, hk, if_pos (by omega)]
  rw [show k + n + 1 - (k + 1) = n by omega]

theorem dropBytes_append (cs ds : List Char) : dropBytes (byteSize cs) (cs ++ ds) = some ds := by
  induction cs with
  | nil => simp [dropBytes]
  | cons c cs ih => rw [byteSize_cons, List.cons_append, dropBytes_cons, ih]

theorem takeBytes_append (cs ds : List Char) : takeBytes (byteSize cs) (cs ++ ds) = some cs := by
  induction cs with
  | nil => simp [takeBytes]
  | cons c cs ih => rw [byteSize_cons, List.cons_append, takeBytes_cons, ih, Option.map_some]

/-- The slice between the ends of two parts of a text. -/
theorem slice?_append (front middle back : List Char) :
    slice? (byteSize front) (byteSize front + byteSize middle) (front ++ (middle ++ back)) =
      some middle := by
  rw [slice?, if_pos (Nat.le_add_right _ _), dropBytes_append, Nat.add_sub_cancel_left]
  exact takeBytes_append middle back

/-! ## A slice is a part of the text -/

theorem isSuffix_of_dropBytes {n : Nat} {cs back : List Char} (h : dropBytes n cs = some back) :
    back <:+ cs := by
  fun_induction dropBytes n cs with
  | case1 cs =>
      cases h
      exact List.suffix_refl back
  | case2 => cases h
  | case3 n c cs hle ih => exact List.IsSuffix.trans (ih h) (List.suffix_cons c cs)
  | case4 => cases h

theorem isPrefix_of_takeBytes {n : Nat} {cs front : List Char} (h : takeBytes n cs = some front) :
    front <+: cs := by
  fun_induction takeBytes n cs generalizing front with
  | case1 cs =>
      cases h
      exact List.nil_prefix
  | case2 => cases h
  | case3 n c cs hle ih =>
      obtain ⟨taken, ht, rfl⟩ := Option.map_eq_some_iff.1 h
      exact List.cons_prefix_cons.2 ⟨rfl, ih ht⟩
  | case4 => cases h

theorem isInfix_of_slice? {start stop : Nat} {cs slice : List Char}
    (h : slice? start stop cs = some slice) : slice <:+: cs := by
  rw [slice?] at h
  split at h
  next =>
    obtain ⟨back, hb, ht⟩ := Option.bind_eq_some_iff.1 h
    exact List.IsInfix.trans (isPrefix_of_takeBytes ht).isInfix (isSuffix_of_dropBytes hb).isInfix
  next => cases h

/-! ## Places between characters -/

/-- A place between the characters of a text, its ends included. -/
def Between (text : List Char) (place : Nat) : Prop :=
  ∃ front back, text = front ++ back ∧ byteSize front = place

/-- A place lies between characters when the text can be divided there. -/
theorem between_iff {text : List Char} {place : Nat} :
    Between text place ↔ (dropBytes place text).isSome = true := by
  constructor
  · rintro ⟨front, back, rfl, rfl⟩
    rw [dropBytes_append]
    rfl
  · intro h
    induction text generalizing place with
    | nil =>
        cases place with
        | zero => exact ⟨[], [], rfl, rfl⟩
        | succ n => simp [dropBytes] at h
    | cons c cs ih =>
        cases place with
        | zero => exact ⟨[], c :: cs, rfl, rfl⟩
        | succ n =>
            rw [dropBytes] at h
            split at h
            next hle =>
              obtain ⟨front, back, hcs, hsize⟩ := ih h
              refine ⟨c :: front, back, by rw [hcs]; rfl, ?_⟩
              rw [byteSize_cons, hsize]
              omega
            next => cases h

instance (text : List Char) (place : Nat) : Decidable (Between text place) :=
  decidable_of_iff _ between_iff.symm

/-- Between two places of a text there is a slice, and something is in it. -/
theorem exists_slice? {text : List Char} {start stop : Nat} (hs : Between text start)
    (ht : Between text stop) (h : start < stop) :
    ∃ slice, slice? start stop text = some slice ∧ slice ≠ [] := by
  obtain ⟨front, back, rfl, rfl⟩ := hs
  obtain ⟨front', back', he, rfl⟩ := ht
  rcases List.append_eq_append_iff.1 he with ⟨middle, rfl, rfl⟩ | ⟨middle, rfl, _⟩
  · refine ⟨middle, ?_, ?_⟩
    · rw [byteSize_append]
      exact slice?_append front middle back'
    · rintro rfl
      simp at h
  · rw [byteSize_append] at h
    omega

end Colloquy.Text
