import Colloquy.Notice

/-!
# Values with notices

`Logged α` is a value together with the notices given on the way to it, oldest
first.  One step after another gives the notices of both, in that order.  A
step that can fail is a `Logged (Except ε α)`, so the notices given before a
failure are kept.
-/

namespace Colloquy

/-- A value, and what was said on the way to it. -/
structure Logged (α : Type u) where
  /-- The value. -/
  value : α
  /-- The notices, oldest first. -/
  notices : List Notice := []

namespace Logged

variable {α : Type u} {β : Type v}

/-- A value of which there is nothing to say. -/
protected def pure (a : α) : Logged α := ⟨a, []⟩

/-- One step after another. -/
protected def bind (x : Logged α) (f : α → Logged β) : Logged β :=
  ⟨(f x.value).value, x.notices ++ (f x.value).notices⟩

instance : Monad Logged where
  pure := Logged.pure
  bind := Logged.bind

@[simp] theorem value_pure (a : α) : (pure a : Logged α).value = a := rfl
@[simp] theorem notices_pure (a : α) : (pure a : Logged α).notices = [] := rfl
@[simp] theorem value_bind {α β : Type u} (x : Logged α) (f : α → Logged β) :
    (x >>= f).value = (f x.value).value := rfl
@[simp] theorem notices_bind {α β : Type u} (x : Logged α) (f : α → Logged β) :
    (x >>= f).notices = x.notices ++ (f x.value).notices := rfl
@[simp] theorem value_map {α β : Type u} (f : α → β) (x : Logged α) :
    (f <$> x).value = f x.value := rfl
@[simp] theorem notices_map {α β : Type u} (f : α → β) (x : Logged α) :
    (f <$> x).notices = x.notices := List.append_nil _

theorem eq_iff {x y : Logged α} : x = y ↔ x.value = y.value ∧ x.notices = y.notices := by
  cases x; cases y; simp

instance : LawfulMonad Logged :=
  LawfulMonad.mk' _ (fun _ => eq_iff.2 ⟨rfl, List.append_nil _⟩) (fun _ _ => rfl)
    (fun _ _ _ => eq_iff.2 ⟨rfl, List.append_assoc _ _ _⟩)

/-- Says one thing. -/
def say (n : Notice) : Logged Unit := ⟨(), [n]⟩

/-- Says one thing if a condition holds. -/
def sayIf (p : Prop) [Decidable p] (n : Notice) : Logged Unit := if p then say n else pure ()

@[simp] theorem notices_say (n : Notice) : (say n).notices = [n] := rfl

/-- Goes on where a step has not failed. -/
def andThen {ε : Type w} (x : Logged (Except ε α)) (f : α → Logged (Except ε β)) :
    Logged (Except ε β) :=
  match x.value with
  | .error e => ⟨.error e, x.notices⟩
  | .ok a => ⟨(f a).value, x.notices ++ (f a).notices⟩

end Logged

end Colloquy
