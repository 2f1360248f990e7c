import Colloquy.Proofs.Render.Resources

/-!
# Audited backends

An *audited* backend is any backend with a list of the resources that it made
and released, in order.  It answers as the backend inside does
(`Audited.commutes_inner`), so nobody can tell that it is audited.

*Custody* tells where the resources made since the start of an audit are: some
have been released, and the others are held by someone.  A request that makes a
resource puts it among those held, as long as none has been released.  A held
resource can be released.  An audit is *settled* when nothing is held any more:
first everything was made, then every resource was released once, the textures
first and the programs last.
-/

namespace Colloquy.Render

open scoped List
open Logged

variable {B C α : Type} [Backend B α] [Backend C α]

/-- A map of states that changes no answer and no notice. -/
def Backend.Commutes (f : B → C) : Prop :=
  ∀ (b : B) (r : Request α), perform (f b) r = (fun p => (p.1, f p.2)) <$> perform b r

/-- Something that happened to a resource. -/
inductive AuditEntry where
  /-- It was made. -/
  | made (resource : Resource)
  /-- It was released. -/
  | released (resource : Resource)
deriving Repr, DecidableEq

/-- What a request with its answer does to resources. -/
def Request.auditEntries (r : Request α) (answer : r.Answer) : List AuditEntry :=
  (r.made? answer).toList.map .made ++ r.released?.toList.map .released

/-- A backend with a list of what happened to its resources. -/
structure Audited (B : Type) where
  /-- The backend. -/
  inner : B
  /-- What happened to its resources. -/
  entries : List AuditEntry := []

namespace Audited

instance : Backend (Audited B) α where
  perform b r := do
    let (answer, inner) ← Backend.perform b.inner r
    pure (answer, ⟨inner, b.entries ++ r.auditEntries answer⟩)

theorem commutes_inner : Backend.Commutes (inner : Audited B → B) := by
  intro b r
  simp [Backend.perform]

variable [Accounts B]

/-- What a request does to the resources and to the list of what happened to them. -/
theorem quietly_perform {b : Audited B} (r : Request α) (hb : Accounts.Sound b.inner)
    (hr : ∀ x ∈ r.released?, x ∈ Accounts.resources b.inner) :
    (Backend.perform b r).Quietly fun p => Accounts.Sound p.2.inner ∧
      r.released?.toList ++ Accounts.resources p.2.inner ~
        (r.made? p.1).toList ++ Accounts.resources b.inner ∧
      p.2.entries = b.entries ++ r.auditEntries p.1 := by
  obtain ⟨hquiet, hconserves⟩ := Accounts.conserves r hb hr
  have hinner : (Backend.perform b.inner r).Quietly fun p => Accounts.Sound p.2 ∧
      r.released?.toList ++ Accounts.resources p.2 ~
        (r.made? p.1).toList ++ Accounts.resources b.inner :=
    ⟨hquiet, Accounts.sound r hb, hconserves⟩
  exact hinner.bind fun p hp => quietly_pure ⟨hp.1, hp.2, rfl⟩

end Audited

/-! ## Custody -/

variable [Accounts B] {b₀ : B} {b : Audited B} {made released held : List Resource}

/-- Where the resources are that were made since a backend was in a first state. -/
structure Custody (b₀ : B) (b : Audited B) (made released held : List Resource) : Prop where
  sound : Accounts.Sound b.inner
  resources : Accounts.resources b.inner ~ held ++ Accounts.resources b₀
  entries : b.entries = made.map .made ++ released.map .released
  balance : made ~ released ++ held
  nodup : made.Nodup

namespace Custody

/-- At the start of an audit nothing has been made. -/
theorem start (h : Accounts.Sound b₀) : Custody b₀ { inner := b₀ } [] [] [] where
  sound := h
  resources := .refl _
  entries := rfl
  balance := .refl _
  nodup := List.nodup_nil

/-- The order of the resources held does not matter. -/
theorem perm (h : Custody b₀ b made released held) {held' : List Resource} (hperm : held ~ held') :
    Custody b₀ b made released held' :=
  { h with
    resources := h.resources.trans (hperm.append_right _)
    balance := h.balance.trans (hperm.append_left _) }

/-- A request that neither makes nor releases a resource. -/
theorem idle (h : Custody b₀ b made released held) {r : Request α} (hr : r.released? = none)
    (hmade : ∀ answer, r.made? answer = none) :
    (Backend.perform b r).Quietly fun p => Custody b₀ p.2 made released held := by
  refine (Audited.quietly_perform r h.sound (by simp [hr])).imp ?_
  rintro ⟨answer, b'⟩ ⟨hsound, hperm, hentries⟩
  simp only [hr, hmade, Option.toList_none, List.nil_append] at hperm
  simp only [Request.auditEntries, hr, hmade, Option.toList_none, List.map_nil,
    List.append_nil] at hentries
  exact ⟨hsound, hperm.trans h.resources, hentries.trans h.entries, h.balance, h.nodup⟩

/-- A resource that is made is held. -/
theorem make (h : Custody b₀ b made [] held) {r : Request α} (hr : r.released? = none) :
    (Backend.perform b r).Quietly fun p =>
      Custody b₀ p.2 (made ++ (r.made? p.1).toList) [] ((r.made? p.1).toList ++ held) := by
  refine (Audited.quietly_perform r h.sound (by simp [hr])).imp ?_
  rintro ⟨answer, b'⟩ ⟨hsound, hperm, hentries⟩
  simp only [hr, Option.toList_none, List.nil_append] at hperm
  simp only [Request.auditEntries, hr, Option.toList_none, List.map_nil, List.append_nil,
    h.entries] at hentries
  -- What is new is not among the resources that were there, so it was not made before.
  have hnew : ∀ x ∈ (r.made? answer).toList, x ∉ made := by
    intro x hx hmade
    have hheld : x ∈ Accounts.resources b.inner :=
      h.resources.mem_iff.2 (List.mem_append_left _ (h.balance.mem_iff.1 hmade))
    exact List.disjoint_of_nodup_append (hperm.nodup_iff.1 (Accounts.nodup hsound)) hx hheld
  exact
    { sound := hsound
      resources := by
        rw [List.append_assoc]
        exact hperm.trans (h.resources.append_left _)
      entries := by simp [hentries]
      balance := List.perm_append_comm.trans (h.balance.append_left _)
      nodup := List.nodup_append.2 ⟨h.nodup, by cases r.made? answer <;> simp, by
        rintro x hx _ hy rfl
        exact hnew x hy hx⟩ }

/-- A resource that is held can be released. -/
theorem release {x : Resource} (h : Custody b₀ b made released (x :: held)) {r : Request α}
    (hr : r.released? = some x) (hmade : ∀ answer, r.made? answer = none) :
    (Backend.perform b r).Quietly fun p => Custody b₀ p.2 made (released ++ [x]) held := by
  have hx : x ∈ Accounts.resources b.inner := h.resources.mem_iff.2 (by simp)
  refine (Audited.quietly_perform r h.sound (by simpa [hr])).imp ?_
  rintro ⟨answer, b'⟩ ⟨hsound, hperm, hentries⟩
  simp only [hr, hmade, Option.toList_none, Option.toList_some, List.nil_append,
    List.singleton_append] at hperm
  simp only [Request.auditEntries, hr, hmade, Option.toList_none, Option.toList_some, List.map_nil,
    List.nil_append, h.entries] at hentries
  exact
    { sound := hsound
      resources := (List.perm_cons x).1 (hperm.trans h.resources)
      entries := by simp [hentries]
      balance := by simpa using h.balance
      nodup := h.nodup }

end Custody

/-! ## Settled audits -/

/-- When a resource of a kind is to be released. -/
def Kind.turn : Kind → Nat
  | .texture => 0
  | .buffer => 1
  | .program => 2

/-- Textures come before buffers, and buffers before programs. -/
def InTurn (released : List Resource) : Prop :=
  released.Pairwise fun x y => x.kind.turn ≤ y.kind.turn

/-- Whatever was made has been released, once and in turn, after everything was made. -/
structure Settled (b₀ : B) (b : Audited B) : Prop where
  sound : Accounts.Sound b.inner
  resources : Accounts.resources b.inner ~ Accounts.resources b₀
  released_once : ∃ made released, b.entries = made.map .made ++ released.map .released ∧
    made.Nodup ∧ released ~ made ∧ InTurn released

theorem Custody.settled (h : Custody b₀ b made released []) (hturn : InTurn released) :
    Settled b₀ b where
  sound := h.sound
  resources := h.resources
  released_once :=
    ⟨made, released, h.entries, h.nodup, (List.append_nil released ▸ h.balance).symm, hturn⟩

/-- A failure leaves the backend settled, and a success is as it should be. -/
def Leaves {β ε : Type} (b₀ : B) (P : β → Prop) : Except (ε × Audited B) β → Prop
  | .error p => Settled b₀ p.2
  | .ok a => P a

end Colloquy.Render
