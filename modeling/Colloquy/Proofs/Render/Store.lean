import Colloquy.Proofs.Render.Versions

/-!
# The headless backend as a store

Any number of acts may be done with a headless backend, in any order.  Each of them
puts one resource into the store of its kind, releases one from it, or leaves all
stores alone (`Headless.Effect`).  What a store keeps along a run is proved for one act
of these three sorts, and then for runs by induction.

A resource is found under its handle from the act that makes it to the first act that
releases it.  It is not found again later, as no handle is given out twice.
-/

namespace Colloquy.Render

open scoped List
open Logged

/-! ## Acts -/

/-- What a resource of a kind holds. -/
@[reducible] def Kind.Content : Kind → Type
  | .texture => Bitmap
  | .program | .buffer => Unit

/-- A resource with its handle as it is read. -/
def Resource.asRead (x : Resource) : Resource := ⟨x.kind, x.handle.asRead⟩

namespace Request

variable {α : Type}

/-- What the resource that a request asks for is to hold. -/
def content? : Request α → Option (Σ kind : Kind, kind.Content)
  | compile _ _ => some ⟨.program, ()⟩
  | makeBuffer => some ⟨.buffer, ()⟩
  | upload bitmap => some ⟨.texture, bitmap⟩
  | _ => none

/-- Why a request is refused. -/
def fault? : (r : Request α) → r.Answer → Option BackendFault
  | compile _ _, .error fault | makeBuffer, .error fault | upload _, .error fault
  | start _ _ _, .error fault | draw _ _ _ _, .error fault => some fault
  | _, _ => none

end Request

/-- Something done with a headless backend. -/
inductive Act (α : Type) where
  /-- It is asked something. -/
  | ask (r : Request α)
  /-- Its commands are taken. -/
  | take
deriving Repr, DecidableEq

namespace Act

variable {α : Type}

/-- What the resource that an act asks for is to hold. -/
def content? : Act α → Option (Σ kind : Kind, kind.Content)
  | ask r => r.content?
  | take => none

/-- The resource that an act releases, whether it is there or not. -/
def released? : Act α → Option Resource
  | ask r => r.released?.map Resource.asRead
  | take => none

end Act

namespace Headless

variable {α : Type} {b : Headless α} {kind : Kind}

/-- The store of a kind. -/
def store (b : Headless α) : (kind : Kind) → Slots kind kind.Content
  | .program => b.programs
  | .buffer => b.buffers
  | .texture => b.textures

/-- The backend with the store of a kind replaced. -/
def setStore (b : Headless α) : (kind : Kind) → Slots kind kind.Content → Headless α
  | .program, programs => { b with programs }
  | .buffer, buffers => { b with buffers }
  | .texture, textures => { b with textures }

/-- The backend after an act. -/
def act (b : Headless α) : Act α → Headless α
  | .ask r => (b.perform r).value.2
  | .take => b.take.2

/-- The backend after acts. -/
def run (b : Headless α) (acts : List (Act α)) : Headless α := acts.foldl act b

/-- The resource that an act makes. -/
def made? (b : Headless α) : Act α → Option Resource
  | .ask r => r.made? (b.perform r).value.1
  | .take => none

/-- The resource that an act releases, if it is there. -/
def lost? (b : Headless α) (a : Act α) : Option Resource :=
  a.released?.filter fun x => (b.store x.kind).contains x.handle

/-- The resources that acts make. -/
def made (b : Headless α) : List (Act α) → List Resource
  | [] => []
  | a :: acts => (b.made? a).toList ++ made (b.act a) acts

/-- The resources that acts release. -/
def lost (b : Headless α) : List (Act α) → List Resource
  | [] => []
  | a :: acts => (b.lost? a).toList ++ lost (b.act a) acts

theorem run_cons (a : Act α) (acts : List (Act α)) : b.run (a :: acts) = (b.act a).run acts :=
  rfl

theorem run_append (acts acts' : List (Act α)) : b.run (acts ++ acts') = (b.run acts).run acts' :=
  List.foldl_append

theorem made_append (acts acts' : List (Act α)) :
    b.made (acts ++ acts') = b.made acts ++ (b.run acts).made acts' := by
  induction acts generalizing b with
  | nil => rfl
  | cons a acts ih => rw [List.cons_append, made, made, ih, run_cons, List.append_assoc]

/-! ## Stores -/

@[simp] theorem store_setStore (s : Slots kind kind.Content) :
    (b.setStore kind s).store kind = s := by
  cases kind <;> rfl

@[simp] theorem setStore_store : b.setStore kind (b.store kind) = b := by
  cases kind <;> rfl

theorem store_setStore_of_ne {k : Kind} (s : Slots kind kind.Content) (h : k ≠ kind) :
    (b.setStore kind s).store k = b.store k := by
  cases kind <;> cases k <;> first | rfl | exact absurd rfl h

theorem Sound.store (hb : b.Sound) (kind : Kind) : (b.store kind).Sound := by
  cases kind with
  | program => exact hb.programs
  | buffer => exact hb.buffers
  | texture => exact hb.textures

theorem Sound.act (hb : b.Sound) (a : Act α) : (b.act a).Sound := by
  cases a with
  | ask r => exact hb.perform r
  | take => exact ⟨hb.programs, hb.buffers, hb.textures⟩

/-- Nothing is there in the beginning. -/
theorem store_new (kind : Kind) : ({} : Headless α).store kind = {} := by
  cases kind <;> rfl

theorem sound_new : ({} : Headless α).Sound := ⟨.empty, .empty, .empty⟩

/-- A release takes a resource away, or there is none and the store stays as it is. -/
theorem release_cases {β : Type} (s : Slots kind β) (h : Handle kind) :
    s.Removed h (release s h).value ∨ s.get? h = none ∧ (release s h).value = s := by
  rw [release]
  cases hremove : s.remove? h with
  | some s' => exact .inl (Slots.removed hremove)
  | none =>
      refine .inr ⟨Option.not_isSome_iff_eq_none.1 fun hsome => ?_, rfl⟩
      rw [Slots.remove?, Slots.contains, if_pos hsome] at hremove
      cases hremove

/-! ## What an act does -/

/-- What an act does to the stores. -/
inductive Effect (b : Headless α) (a : Act α) : Prop where
  /-- A resource is put in. -/
  | makes (kind : Kind) (c : kind.Content) (hcontent : a.content? = some ⟨kind, c⟩)
      (hmade : b.made? a = some ⟨kind, ((b.store kind).insert c).1⟩)
      (hreleased : a.released? = none)
      (hact : b.act a = b.setStore kind ((b.store kind).insert c).2)
  /-- A resource is released. -/
  | releases (kind : Kind) (h : Handle kind) (hmade : b.made? a = none)
      (hreleased : a.released? = some ⟨kind, h.asRead⟩)
      (hact : b.act a = b.setStore kind (release (b.store kind) h).value)
  /-- The stores are left alone. -/
  | rests (hmade : b.made? a = none) (hreleased : a.released? = none)
      (hact : ∀ kind, (b.act a).store kind = b.store kind)

/-- An act that is refused changes nothing. -/
theorem perform_of_fault (r : Request α) {fault : BackendFault}
    (h : r.fault? (b.perform r).value.1 = some fault) : (b.perform r).value.2 = b := by
  cases r with
  | compile vertex fragment =>
      simp only [perform, compile, value_pure] at h ⊢
      split at h
      · rw [if_pos ‹_›]
      · cases h
  | upload bitmap =>
      simp only [perform, upload, value_pure] at h ⊢
      split at h
      · cases h
      · rw [if_neg ‹_›]
  | start program width height =>
      simp only [perform, start, value_pure] at h ⊢
      split at h
      · cases h
      · rw [if_neg ‹_›]
  | draw buffer texture quad color =>
      simp only [perform, draw, value_pure] at h ⊢
      split_ifs at h ⊢ with hpass hbuffer htexture
      · rfl
      · rfl
      · rfl
      · cases h
  | makeBuffer | dropProgram | dropBuffer | dropTexture | clear | finish => cases h

theorem effect (b : Headless α) (a : Act α) : Effect b a := by
  cases a with
  | take => exact .rests rfl rfl fun kind => by cases kind <;> rfl
  | ask r =>
      cases r with
      | compile vertex fragment =>
          by_cases hblank :
              (Text.isAllBlank vertex.toList || Text.isAllBlank fragment.toList) = true
          · refine .rests ?_ rfl ?_
            · simp [made?, perform, compile, hblank, Request.made?]
            · simp [act, perform, compile, hblank]
          · refine .makes .program () rfl ?_ rfl ?_
            · simp [made?, perform, compile, hblank, Request.made?, store]
            · simp [act, perform, compile, hblank, setStore, store]
      | upload bitmap =>
          by_cases hfits : bitmap.fits = true
          · refine .makes .texture bitmap rfl ?_ rfl ?_
            · simp [made?, perform, upload, hfits, Request.made?, store]
            · simp [act, perform, upload, hfits, setStore, store]
          · refine .rests ?_ rfl ?_
            · simp [made?, perform, upload, hfits, Request.made?]
            · simp [act, perform, upload, hfits]
      | makeBuffer => exact .makes .buffer () rfl rfl rfl rfl
      | dropProgram h => exact .releases _ h rfl rfl rfl
      | dropBuffer h => exact .releases _ h rfl rfl rfl
      | dropTexture h => exact .releases _ h rfl rfl rfl
      | clear color => exact .rests rfl rfl fun kind => by cases kind <;> rfl
      | finish => exact .rests rfl rfl fun kind => by cases kind <;> rfl
      | start program width height =>
          refine .rests rfl rfl fun kind => ?_
          simp only [act, perform, start, value_pure]
          split
          · cases kind <;> rfl
          · rfl
      | draw buffer texture quad color =>
          refine .rests rfl rfl fun kind => ?_
          simp only [act, perform, draw, value_pure]
          split_ifs
          · rfl
          · rfl
          · rfl
          · cases kind <;> rfl

/-- What an act does to the store of one kind. -/
inductive StoreEffect (b : Headless α) (a : Act α) (kind : Kind) : Prop where
  /-- A resource is put in. -/
  | makes {h : Handle kind} {c : kind.Content} (hcontent : a.content? = some ⟨kind, c⟩)
      (hmade : b.made? a = some ⟨kind, h⟩) (hreleased : a.released? = none)
      (hstore : (b.store kind).Inserted c h ((b.act a).store kind))
  /-- A resource that is there is released. -/
  | releases {h : Handle kind} (hmade : b.made? a = none)
      (hreleased : a.released? = some ⟨kind, h.asRead⟩)
      (hstore : (b.store kind).Removed h ((b.act a).store kind))
  /-- The store is left alone. -/
  | rests (hmade : ∀ x ∈ b.made? a, x.kind ≠ kind)
      (hreleased : ∀ h, a.released? = some ⟨kind, h⟩ → (b.store kind).get? h = none)
      (hstore : (b.act a).store kind = b.store kind)

theorem Sound.storeEffect (hb : b.Sound) (a : Act α) (kind : Kind) : StoreEffect b a kind := by
  cases b.effect a with
  | rests hmade hreleased hact =>
      exact .rests (by simp [hmade]) (by simp [hreleased]) (hact kind)
  | makes k c hcontent hmade hreleased hact =>
      by_cases hk : kind = k
      · subst hk
        refine .makes hcontent hmade hreleased ?_
        rw [hact, store_setStore]
        exact Slots.inserted (hb.store kind) c
      · refine .rests ?_ (by simp [hreleased]) ?_
        · simpa [hmade] using Ne.symm hk
        · rw [hact, store_setStore_of_ne _ hk]
  | releases k h hmade hreleased hact =>
      by_cases hk : kind = k
      · subst hk
        rcases release_cases (b.store kind) h with hremoved | ⟨hnone, hsame⟩
        · refine .releases hmade hreleased ?_
          rwa [hact, store_setStore]
        · refine .rests (by simp [hmade]) ?_ ?_
          · intro h' hreleased'
            cases hreleased.symm.trans hreleased'
            rwa [Slots.get?_asRead]
          · rw [hact, store_setStore, hsame]
      · refine .rests (by simp [hmade]) ?_ ?_
        · intro h' hreleased'
          cases hreleased.symm.trans hreleased'
          exact absurd rfl hk
        · rw [hact, store_setStore_of_ne _ hk]

/-! ## Resources found -/

section Found

variable {a : Act α} {h : Handle kind} {c : kind.Content}

theorem get?_act_of_made (hb : b.Sound) (hmade : b.made? a = some ⟨kind, h⟩) :
    h.asRead = h ∧ ∃ c, a.content? = some ⟨kind, c⟩ ∧ ((b.act a).store kind).get? h = some c := by
  cases hb.storeEffect a kind with
  | makes hcontent hmade' _ hstore =>
      cases hmade.symm.trans hmade'
      refine ⟨hstore.asRead, _, hcontent, ?_⟩
      rw [hstore.get?, if_pos hstore.asRead]
  | releases hmade' _ _ => cases hmade.symm.trans hmade'
  | rests hmade' _ _ => exact absurd rfl (hmade' _ hmade)

theorem get?_act_of_released (hb : b.Sound) (hreleased : a.released? = some ⟨kind, h⟩) :
    ((b.act a).store kind).get? h = none := by
  cases hb.storeEffect a kind with
  | makes _ _ hreleased' _ => cases hreleased.symm.trans hreleased'
  | releases _ hreleased' hstore =>
      cases hreleased.symm.trans hreleased'
      rw [Slots.get?_asRead, hstore.get?, if_pos rfl]
  | rests _ hreleased' hstore =>
      rw [hstore]
      exact hreleased' h hreleased

theorem get?_act_of_unreleased (hb : b.Sound) (hread : h.asRead = h)
    (hget : (b.store kind).get? h = some c) (hreleased : a.released? ≠ some ⟨kind, h⟩) :
    ((b.act a).store kind).get? h = some c := by
  cases hb.storeEffect a kind with
  | makes _ _ _ hstore => exact hstore.get?_of_some hget
  | releases _ hreleased' hstore =>
      rw [hstore.get?, hread, if_neg, hget]
      rintro rfl
      exact hreleased hreleased'
  | rests _ _ hstore => rw [hstore, hget]

theorem get?_act_of_unmade (hb : b.Sound) (hread : h.asRead = h)
    (hget : (b.store kind).get? h = none) (hmade : b.made? a ≠ some ⟨kind, h⟩) :
    ((b.act a).store kind).get? h = none := by
  cases hb.storeEffect a kind with
  | makes _ hmade' _ hstore =>
      rw [hstore.get?, hread, if_neg, hget]
      rintro rfl
      exact hmade hmade'
  | releases _ _ hstore => rw [hstore.get?, hget, ite_self]
  | rests _ _ hstore => rw [hstore, hget]

/-- To release what is not there changes nothing. -/
theorem act_of_gone (hget : (b.store kind).get? h = none)
    (hreleased : a.released? = some ⟨kind, h⟩) : b.act a = b := by
  cases b.effect a with
  | makes _ _ _ _ hreleased' _ => cases hreleased.symm.trans hreleased'
  | rests _ hreleased' _ => cases hreleased.symm.trans hreleased'
  | releases _ h' _ hreleased' hact =>
      cases hreleased.symm.trans hreleased'
      rw [Slots.get?_asRead] at hget
      rw [hact]
      rcases release_cases (b.store kind) h' with hremoved | ⟨-, hsame⟩
      · have hthere := hremoved.isSome_get?
        simp [hget] at hthere
      · rw [hsame, setStore_store]

end Found

/-! ## Resources counted -/

theorem tally_act {given : List Resource} (hb : b.Sound) (ht : Tally (b.store kind) given)
    (a : Act α) : Tally ((b.act a).store kind) (given ++ (b.made? a).toList) := by
  cases hb.storeEffect a kind with
  | makes _ hmade _ hstore =>
      rw [hmade]
      exact ht.insert hstore
  | releases hmade _ hstore =>
      rw [hmade, Option.toList_none, List.append_nil]
      exact ht.remove hstore
  | rests hmade _ hstore =>
      rw [hstore]
      cases hx : b.made? a with
      | none => rwa [Option.toList_none, List.append_nil]
      | some x => exact ht.other (hmade x hx)

theorem kind_ne_of_lost {a : Act α} {x : Resource}
    (hreleased : ∀ h, a.released? = some ⟨kind, h⟩ → (b.store kind).get? h = none)
    (hx : x ∈ b.lost? a) : x.kind ≠ kind := by
  obtain ⟨hx, hthere⟩ := Option.filter_eq_some_iff.1 hx
  rintro rfl
  rw [Slots.contains, hreleased x.handle hx] at hthere
  cases hthere

/-- What is there more after an act is what it makes, without what it releases. -/
theorem live_act (hb : b.Sound) (a : Act α) (kind : Kind) :
    ((b.act a).store kind).live + (b.lost? a).toList.countP (fun x => x.kind = kind) =
      (b.store kind).live + (b.made? a).toList.countP fun x => x.kind = kind := by
  rw [Slots.live_eq_length_handles, Slots.live_eq_length_handles]
  cases hb.storeEffect a kind with
  | makes _ hmade hreleased hstore =>
      rw [hstore.handles.length_eq, lost?, hreleased, hmade]
      simp
  | @releases h hmade hreleased hstore =>
      have hlost : b.lost? a = some ⟨kind, h.asRead⟩ := by
        refine Option.filter_eq_some_iff.2 ⟨hreleased, ?_⟩
        rw [Slots.contains, Slots.get?_asRead]
        exact hstore.isSome_get?
      rw [hstore.handles.length_eq, hlost, hmade]
      simp
  | rests hmade hreleased hstore =>
      have hlost : ∀ x ∈ (b.lost? a).toList, x.kind ≠ kind := fun x hx =>
        kind_ne_of_lost hreleased (Option.mem_toList.1 hx)
      rw [hstore, List.countP_eq_zero.2 (by simpa using hlost),
        List.countP_eq_zero.2 (by simpa using hmade)]

/-! ## Runs -/

theorem Sound.run (hb : b.Sound) (acts : List (Act α)) : (b.run acts).Sound := by
  induction acts generalizing b with
  | nil => exact hb
  | cons a acts ih => exact ih (hb.act a)

theorem tally_run {given : List Resource} (hb : b.Sound) (ht : Tally (b.store kind) given)
    (acts : List (Act α)) : Tally ((b.run acts).store kind) (given ++ b.made acts) := by
  induction acts generalizing b given with
  | nil => rwa [made, List.append_nil]
  | cons a acts ih =>
      rw [made, ← List.append_assoc]
      exact ih (hb.act a) (tally_act hb ht a)

theorem live_run (hb : b.Sound) (acts : List (Act α)) (kind : Kind) :
    ((b.run acts).store kind).live + (b.lost acts).countP (fun x => x.kind = kind) =
      (b.store kind).live + (b.made acts).countP fun x => x.kind = kind := by
  induction acts generalizing b with
  | nil => rfl
  | cons a acts ih =>
      have hact := live_act hb a kind
      have hacts := ih (hb.act a)
      rw [run_cons, lost, made, List.countP_append, List.countP_append]
      omega

section Found

variable {h : Handle kind} {c : kind.Content}

theorem get?_run_of_unreleased (hb : b.Sound) (hread : h.asRead = h)
    (hget : (b.store kind).get? h = some c) {acts : List (Act α)}
    (hreleased : ∀ a ∈ acts, a.released? ≠ some ⟨kind, h⟩) :
    ((b.run acts).store kind).get? h = some c := by
  induction acts generalizing b with
  | nil => exact hget
  | cons a acts ih =>
      obtain ⟨ha, hacts⟩ := List.forall_mem_cons.1 hreleased
      exact ih (hb.act a) (get?_act_of_unreleased hb hread hget ha) hacts

theorem get?_run_of_unmade (hb : b.Sound) (hread : h.asRead = h)
    (hget : (b.store kind).get? h = none) {acts : List (Act α)}
    (hmade : ⟨kind, h⟩ ∉ b.made acts) : ((b.run acts).store kind).get? h = none := by
  induction acts generalizing b with
  | nil => exact hget
  | cons a acts ih =>
      rw [made, List.mem_append, not_or] at hmade
      exact ih (hb.act a) (get?_act_of_unmade hb hread hget (by simpa using hmade.1)) hmade.2

end Found

/-- A resource that is made is made by one of the acts. -/
theorem exists_of_mem_made {x : Resource} {acts : List (Act α)} (hx : x ∈ b.made acts) :
    ∃ front a back, acts = front ++ a :: back ∧ (b.run front).made? a = some x := by
  induction acts generalizing b with
  | nil => cases hx
  | cons a acts ih =>
      rcases List.mem_append.1 hx with hx | hx
      · exact ⟨[], a, acts, rfl, Option.mem_toList.1 hx⟩
      · obtain ⟨front, a', back, rfl, hmade⟩ := ih hx
        exact ⟨a :: front, a', back, rfl, hmade⟩

/-- A resource is found from the act that makes it to the first one that releases it. -/
theorem get?_run_of_made (hb : b.Sound) {front back : List (Act α)} {a : Act α} {h : Handle kind}
    {c : kind.Content} (hnodup : (b.made (front ++ a :: back)).Nodup)
    (hmade : (b.run front).made? a = some ⟨kind, h⟩) (hcontent : a.content? = some ⟨kind, c⟩) :
    ((b.run (front ++ a :: back)).store kind).get? h =
      if ∃ a' ∈ back, a'.released? = some ⟨kind, h⟩ then none else some c := by
  have hfront := hb.run front
  obtain ⟨hread, c', hcontent', hget⟩ := get?_act_of_made hfront hmade
  cases hcontent.symm.trans hcontent'
  rw [run_append, run_cons]
  by_cases hreleased : ∃ a' ∈ back, a'.released? = some ⟨kind, h⟩
  · rw [if_pos hreleased]
    obtain ⟨a', ha', hreleased⟩ := hreleased
    obtain ⟨mid, rest, rfl⟩ := List.append_of_mem ha'
    have hmid := (hfront.act a).run mid
    rw [run_append, run_cons]
    refine get?_run_of_unmade (hmid.act a') hread (get?_act_of_released hmid hreleased) ?_
    -- the handle has been given out before
    rw [made_append, made, hmade, made_append, made] at hnodup
    intro hagain
    have hdisjoint := List.disjoint_of_nodup_append (List.nodup_append'.1 hnodup).2.1
    exact hdisjoint (List.mem_singleton_self _) (by simp [hagain])
  · rw [if_neg hreleased]
    refine get?_run_of_unreleased (hfront.act a) hread hget fun a' ha' he => ?_
    exact hreleased ⟨a', ha', he⟩

theorem fits_of_made {a : Act α} {h : Handle .texture} {bitmap : Bitmap}
    (hmade : b.made? a = some ⟨.texture, h⟩) (hcontent : a.content? = some ⟨.texture, bitmap⟩) :
    bitmap.fits = true := by
  cases a with
  | take => cases hcontent
  | ask r =>
      cases r with
      | upload bitmap' =>
          cases hcontent
          rw [made?, perform, upload, value_pure] at hmade
          split at hmade
          · assumption
          · cases hmade
      | compile | makeBuffer => cases hcontent
      | dropProgram | dropBuffer | dropTexture | clear | start | draw | finish => cases hcontent

/-- Whether the textures have as many pixels as their sizes say. -/
def Fitting (b : Headless α) : Prop :=
  ∀ h bitmap, b.textures.get? h = some bitmap → bitmap.fits = true

theorem Fitting.act (hb : b.Sound) (hfits : b.Fitting) (a : Act α) : (b.act a).Fitting := by
  intro h bitmap (hget : ((b.act a).store .texture).get? h = some bitmap)
  cases hb.storeEffect a .texture with
  | makes hcontent hmade _ hstore =>
      rw [hstore.get?] at hget
      split at hget
      · cases hget
        exact fits_of_made hmade hcontent
      · exact hfits h bitmap hget
  | releases _ _ hstore =>
      rw [hstore.get?] at hget
      split at hget
      · cases hget
      · exact hfits h bitmap hget
  | rests _ _ hstore =>
      rw [hstore] at hget
      exact hfits h bitmap hget

theorem Fitting.run (hb : b.Sound) (hfits : b.Fitting) (acts : List (Act α)) :
    (b.run acts).Fitting := by
  induction acts generalizing b with
  | nil => exact hfits
  | cons a acts ih => exact ih (hb.act a) (hfits.act hb a)

/-- A new backend is a store in which no handle comes twice.  A resource is found with
what it was made of until it is released and never after that, to release it again
changes nothing, a texture has as many bytes as its size says, what is there of a kind is
what was made without what was released, and an act that is refused changes nothing. -/
theorem run_handles (acts : List (Act α))
    (hreuse : ∀ slot, takings (made ({} : Headless α) acts) slot ≤ 2 ^ 31) :
    (made ({} : Headless α) acts).Nodup ∧
    (∀ front a back kind (h : Handle kind) c, acts = front ++ a :: back →
      (run {} front).made? a = some ⟨kind, h⟩ → a.content? = some ⟨kind, c⟩ →
      ((run {} acts).store kind).get? h =
        if ∃ a' ∈ back, a'.released? = some ⟨kind, h⟩ then none else some c) ∧
    (∀ front a back x a', acts = front ++ a :: back → x ∈ made ({} : Headless α) front →
      a.released? = some x → a'.released? = some x → (run {} acts).act a' = run {} acts) ∧
    (run ({} : Headless α) acts).Fitting ∧
    (∀ kind, ((run ({} : Headless α) acts).store kind).live +
        (lost ({} : Headless α) acts).countP (fun x => x.kind = kind) =
      (made ({} : Headless α) acts).countP fun x => x.kind = kind) ∧
    ∀ (r : Request α) fault, r.fault? ((run {} acts).perform r).value.1 = some fault →
      ((run {} acts).perform r).value.2 = run {} acts := by
  have hnodup : (made ({} : Headless α) acts).Nodup := by
    refine nodup_of_versions (fun slot => ?_) hreuse
    exact (tally_run sound_new (store_new slot.1 ▸ Tally.empty) acts).versions slot.2
  refine ⟨hnodup, ?_, ?_, ?_, ?_, ?_⟩
  · rintro front a back kind h c rfl hmade hcontent
    exact get?_run_of_made sound_new hnodup hmade hcontent
  · rintro front a back x a' rfl hx hreleased hreleased'
    obtain ⟨front, a₀, mid, rfl, hmade⟩ := exists_of_mem_made hx
    obtain ⟨-, c, hcontent, -⟩ := get?_act_of_made (sound_new.run front) hmade
    rw [List.append_assoc, List.cons_append] at hnodup ⊢
    refine act_of_gone ?_ hreleased'
    rw [get?_run_of_made sound_new hnodup hmade hcontent, if_pos ⟨a, by simp, hreleased⟩]
  · exact Fitting.run sound_new (fun h bitmap hget => by
      rw [Slots.get?_empty] at hget
      cases hget) acts
  · intro kind
    rw [live_run sound_new acts kind, store_new]
    exact Nat.zero_add _
  · intro r fault
    exact perform_of_fault r

/-- A texture released and another one in its slot, after a bitmap that is refused.  The
first one is released again in the end. -/
def slotTakenTwice : List (Act Nat) :=
  [.ask (.upload ⟨2, 1, [0, 255]⟩), .ask (.upload ⟨2, 2, [0]⟩), .ask (.dropTexture ⟨1, 1⟩),
    .ask (.upload ⟨1, 1, [9]⟩), .ask (.dropTexture ⟨1, 1⟩), .take]

theorem run_handles_slotTakenTwice :
    (∀ slot, takings (made {} slotTakenTwice) slot ≤ 2 ^ 31) ∧
    made {} slotTakenTwice = [⟨.texture, ⟨1, 1⟩⟩, ⟨.texture, ⟨3, 1⟩⟩] ∧
    (made {} slotTakenTwice).Nodup ∧
    (run {} slotTakenTwice).textures.get? ⟨1, 1⟩ = none ∧
    (run {} slotTakenTwice).textures.get? ⟨3, 1⟩ = some ⟨1, 1, [9]⟩ := by
  have hmade : made {} slotTakenTwice = [⟨.texture, ⟨1, 1⟩⟩, ⟨.texture, ⟨3, 1⟩⟩] := by decide
  have hreuse : ∀ slot, takings (made {} slotTakenTwice) slot ≤ 2 ^ 31 := fun slot => by
    have hlength : takings (made {} slotTakenTwice) slot ≤ (made {} slotTakenTwice).length :=
      List.countP_le_length
    rw [hmade] at hlength ⊢
    exact Nat.le_trans hlength (by decide)
  obtain ⟨hnodup, hfound, -⟩ := run_handles slotTakenTwice hreuse
  refine ⟨hreuse, hmade, hnodup, ?_, ?_⟩
  · exact (hfound [] _ _ .texture ⟨1, 1⟩ ⟨2, 1, [0, 255]⟩ rfl rfl rfl).trans (if_pos (by decide))
  · exact (hfound (slotTakenTwice.take 3) _ _ .texture ⟨3, 1⟩ ⟨1, 1, [9]⟩ rfl rfl rfl).trans
      (if_neg (by decide))

end Headless

end Colloquy.Render
