import Mathlib.Logic.Function.Basic
import Mathlib.Tactic.Lemma
import Mathlib.Tactic.SplitIfs

/-!
# Models with change handlers

A model as Backbone has it: an object of attributes, and the attributes as they were before the most
recent outermost `set`.  A `set` merges an object into the attributes, and triggers the handlers of
the attributes that it changes; what the handlers set is part of the same `set`.

An attribute may be missing, or be there with the value `undefined` (the default of the type of
values); `get` does not tell these apart, but merging does.

* `Obj.get_extend` — what merging leaves.
* `Model.get_set_of_frame` — what a `set` makes of an attribute that no handler writes.
* `Model.set_unchanged_iff` — a `set` leaves a family of attributes unchanged exactly if what the
  object has of them is what they were.
-/

namespace Backbone

/-- The attributes that an object has, by name. -/
abbrev Obj (κ ν : Type*) := κ → Option ν

variable {κ ν : Type*}

/-- The object without attributes. -/
def Obj.empty : Obj κ ν := fun _ => none

/-- The value of an attribute; `undefined` if it is missing. -/
def Obj.get [Inhabited ν] (o : Obj κ ν) (k : κ) : ν := (o k).getD default

/-- The object with all that `p` has. -/
def Obj.extend (o p : Obj κ ν) : Obj κ ν := fun k => (p k).or (o k)

/-- What a handler does to one attribute. -/
inductive Update (κ ν : Type*)
  | set (k : κ) (v : ν)
  | unset (k : κ)

/-- The attribute. -/
def Update.key : Update κ ν → κ
  | set k _ => k
  | unset k => k

section Models

variable [DecidableEq κ]

/-- The attributes after an update. -/
def Update.apply (o : Obj κ ν) : Update κ ν → Obj κ ν
  | set k v => Function.update o k (some v)
  | unset k => Function.update o k none

/-- The attributes after updates, one after the other. -/
def Obj.applyAll (o : Obj κ ν) (us : List (Update κ ν)) : Obj κ ν := us.foldl Update.apply o

/-- A handler of the event that an attribute changes: the updates that it makes, from the attributes
as they are. -/
structure ChangeHandler (κ ν : Type*) where
  key : κ
  run : Obj κ ν → List (Update κ ν)

/-- No handler writes the attribute. -/
def Frames (hs : List (ChangeHandler κ ν)) (k : κ) : Prop :=
  ∀ h ∈ hs, ∀ o, ∀ u ∈ h.run o, u.key ≠ k

/-- A model. -/
structure Model (κ ν : Type*) where
  attributes : Obj κ ν
  /-- The attributes before the most recent outermost `set`. -/
  previous : Obj κ ν

/-- The attributes after the handlers of those that have changed. -/
def Obj.runHandlers (changed : κ → Prop) [DecidablePred changed] (o : Obj κ ν) :
    List (ChangeHandler κ ν) → Obj κ ν
  | [] => o
  | h :: hs => (if changed h.key then o.applyAll (h.run o) else o).runHandlers changed hs

variable [Inhabited ν] [DecidableEq ν]

/-- The model with other attributes, as one `set` leaves it. -/
def Model.become (hs : List (ChangeHandler κ ν)) (m : Model κ ν) (o : Obj κ ν) : Model κ ν where
  attributes := o.runHandlers (fun k => m.attributes.get k ≠ o.get k) hs
  previous := m.attributes

/-- `set`, of an object. -/
def Model.set (hs : List (ChangeHandler κ ν)) (m : Model κ ν) (o : Obj κ ν) : Model κ ν :=
  m.become hs (m.attributes.extend o)

/-- `set` or `unset`, of one attribute. -/
def Model.update (hs : List (ChangeHandler κ ν)) (m : Model κ ν) (u : Update κ ν) : Model κ ν :=
  m.become hs (u.apply m.attributes)

/-! ## What merging leaves -/

omit [DecidableEq κ] [DecidableEq ν] in
lemma Obj.get_extend (o p : Obj κ ν) (k : κ) : (o.extend p).get k = (p k).getD (o.get k) := by
  rw [get, extend]
  cases p k <;> rfl

omit [DecidableEq κ] [DecidableEq ν] in
/-- Merging leaves an attribute unchanged exactly if the object lacks it, or has the value it has. -/
lemma Obj.get_extend_eq_iff (o p : Obj κ ν) (k : κ) :
    (o.extend p).get k = o.get k ↔ ∀ v, p k = some v → o.get k = v := by
  rw [get_extend]
  cases hk : p k with
  | none => exact iff_of_true rfl nofun
  | some v =>
      rw [Option.getD_some]
      exact ⟨fun h w hw => h.symm.trans (Option.some.inj hw), fun h => (h v rfl).symm⟩

omit [DecidableEq κ] [DecidableEq ν] in
/-- An attribute with another value than `undefined` is there. -/
lemma Obj.eq_some_of_get {o : Obj κ ν} {k : κ} {v : ν} (h : o.get k = v) (hv : v ≠ default) :
    o k = some v := by
  rw [get] at h
  cases hk : o k with
  | none => exact absurd (by rw [← h, hk]; rfl) hv
  | some w =>
      rw [hk] at h
      exact congrArg some h

/-! ## What handlers leave -/

omit [Inhabited ν] [DecidableEq ν] in
lemma Update.apply_of_ne {u : Update κ ν} {k : κ} (h : u.key ≠ k) (o : Obj κ ν) :
    u.apply o k = o k := by
  cases u with
  | set k' v => exact Function.update_of_ne (Ne.symm h) _ _
  | unset k' => exact Function.update_of_ne (Ne.symm h) _ _

omit [Inhabited ν] [DecidableEq ν] in
lemma Obj.applyAll_of_ne {us : List (Update κ ν)} {k : κ} (h : ∀ u ∈ us, u.key ≠ k)
    (o : Obj κ ν) : o.applyAll us k = o k := by
  induction us generalizing o with
  | nil => rfl
  | cons u us ih =>
      obtain ⟨hu, hus⟩ := List.forall_mem_cons.mp h
      exact (ih hus (u.apply o)).trans (u.apply_of_ne hu o)

omit [Inhabited ν] [DecidableEq ν] in
/-- An attribute that no handler writes stays as it was. -/
lemma Obj.runHandlers_of_frame {changed : κ → Prop} [DecidablePred changed]
    {hs : List (ChangeHandler κ ν)} {k : κ} (h : Frames hs k) (o : Obj κ ν) :
    o.runHandlers changed hs k = o k := by
  induction hs generalizing o with
  | nil => rfl
  | cons c hs ih =>
      obtain ⟨hhead, hrest⟩ := List.forall_mem_cons.mp h
      rw [runHandlers, ih hrest]
      split_ifs
      · exact applyAll_of_ne (hhead o) o
      · rfl

omit [Inhabited ν] [DecidableEq ν] in
/-- Where no attribute has changed that has a handler, all attributes stay as they were. -/
lemma Obj.runHandlers_of_unchanged {changed : κ → Prop} [DecidablePred changed]
    {hs : List (ChangeHandler κ ν)} (h : ∀ c ∈ hs, ¬ changed c.key) (o : Obj κ ν) :
    o.runHandlers changed hs = o := by
  induction hs with
  | nil => rfl
  | cons c hs ih =>
      obtain ⟨hhead, hrest⟩ := List.forall_mem_cons.mp h
      rw [runHandlers, if_neg hhead]
      exact ih hrest

namespace Model

variable {hs : List (ChangeHandler κ ν)} (m : Model κ ν) (o : Obj κ ν)

lemma attributes_set_of_frame {k : κ} (h : Frames hs k) :
    (m.set hs o).attributes k = m.attributes.extend o k :=
  Obj.runHandlers_of_frame h _

/-- A `set` gives an attribute that no handler writes the value that the object has, if it has one. -/
lemma get_set_of_frame {k : κ} (h : Frames hs k) :
    (m.set hs o).attributes.get k = (o k).getD (m.attributes.get k) := by
  rw [← Obj.get_extend, Obj.get, attributes_set_of_frame m o h, Obj.get]

/-- Where the handlers but the first do not write an attribute, a `set` leaves of it what the first
does. -/
lemma attributes_set_of_frame_tail {c : ChangeHandler κ ν} {k : κ} (h : Frames hs k) :
    (m.set (c :: hs) o).attributes k =
      if m.attributes.get c.key ≠ (m.attributes.extend o).get c.key then
        (m.attributes.extend o).applyAll (c.run (m.attributes.extend o)) k
      else m.attributes.extend o k := by
  have hrun : (m.set (c :: hs) o).attributes k =
      (if m.attributes.get c.key ≠ (m.attributes.extend o).get c.key then
        (m.attributes.extend o).applyAll (c.run (m.attributes.extend o))
      else m.attributes.extend o) k :=
    Obj.runHandlers_of_frame h _
  refine hrun.trans ?_
  split_ifs <;> rfl

/-- An update leaves alone another attribute that no handler writes. -/
lemma get_update_of_frame {k : κ} (h : Frames hs k) {u : Update κ ν} (hne : u.key ≠ k) :
    (m.update hs u).attributes.get k = m.attributes.get k :=
  congrArg (·.getD default) ((Obj.runHandlers_of_frame h _).trans (u.apply_of_ne hne _))

/-- A `set` that changes no attribute with a handler is a merge. -/
lemma attributes_set_of_unchanged
    (h : ∀ h ∈ hs, ∀ v, o h.key = some v → m.attributes.get h.key = v) :
    (m.set hs o).attributes = m.attributes.extend o :=
  Obj.runHandlers_of_unchanged
    (fun c hc hne => hne ((Obj.get_extend_eq_iff _ _ _).mpr (h c hc)).symm) _

/-- **What a `set` leaves unchanged.**  Let the attributes with handlers be in a family, and let no
handler write them.  A `set` leaves the family unchanged exactly if what the object has of it is what
the attributes were. -/
theorem set_unchanged_iff {K : κ → Prop} (hkeys : ∀ h ∈ hs, K h.key)
    (hframes : ∀ h ∈ hs, Frames hs h.key) :
    (∀ k, K k → (m.set hs o).attributes.get k = m.attributes.get k) ↔
      ∀ k, K k → ∀ v, o k = some v → m.attributes.get k = v := by
  have hmerge : (∀ h ∈ hs, ∀ v, o h.key = some v → m.attributes.get h.key = v) →
      ∀ k, (m.set hs o).attributes.get k = m.attributes.get k ↔
        ∀ v, o k = some v → m.attributes.get k = v := by
    intro h k
    rw [attributes_set_of_unchanged m o h]
    exact Obj.get_extend_eq_iff _ _ _
  constructor
  · intro h
    -- an attribute with a handler is unchanged, and so no handler has run
    have hsame : ∀ c ∈ hs, ∀ v, o c.key = some v → m.attributes.get c.key = v := by
      intro c hc v hv
      have hget := h c.key (hkeys c hc)
      rw [get_set_of_frame m o (hframes c hc), hv] at hget
      exact hget.symm
    exact fun k hk => (hmerge hsame k).mp (h k hk)
  · intro h k hk
    exact (hmerge (fun c hc => h c.key (hkeys c hc)) k).mpr (h k hk)

end Model

end Models

end Backbone
