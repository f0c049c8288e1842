import Mathlib.Data.List.ReduceOption
import Snapweb.Client.SnapEvents
import Snapweb.Core.Collection
import Snapweb.Core.Form
import Snapweb.Packages.StoreListing
import Snapweb.Packages.TrackedListing
import Snapweb.StateTracker.History

/-!
# Lists of snaps

`collections/snaplist.js`: the models of a listing, from the payloads that the server answers.

* `fetchList_of_nodup` — each payload makes a model.
* `payloads_describe` — records are described as the tracker has them before the listing.
* `response_of_listing` — what a listing tells is what is answered.
-/

namespace Snapweb

/-- What is documented of snapd: a record that is asked for by a name has this name, and no two records
of a list have the same. -/
structure SnapdClient.Documented (c : SnapdClient) : Prop where
  named : ∀ name snap, getSnap c name = .ok (some snap) → snap.name = name
  distinct : ∀ snaps, (c.list = .ok snaps ∨ ∃ options, c.find options = .ok snaps) →
    (snaps.map (·.name)).Nodup

namespace Client

open Backbone

/-! ## The collection -/

/-- `id` of a model. -/
def idOf (m : SnapModel) : JSValue := m.attributes.get .id

/-- A model of a listing, before it is added. -/
def SnapModel.parsed (lib : Libraries) (response : Attributes) : SnapModel :=
  let p := parse lib response
  SnapModel.construct (SnapModel.setPretty [] ⟨Obj.empty, Obj.empty⟩ p) (toObj p.response)

/-- The handlers of `add`. -/
def SnapModel.onAdd (lib : Libraries) (m : SnapModel) : SnapModel :=
  (onStatusChange m.attributes).foldl (Model.update (handlers lib)) m

/-- `SnapList.fetch`, into an empty list. -/
def fetchList (lib : Libraries) (pkgs : List SnapPkg) : List SnapModel :=
  (Collection.fetch idOf (fun pkg => .str pkg.id) (fun pkg => SnapModel.parsed lib pkg.encode)
    (fun m pkg => m.receive lib pkg.encode) pkgs).map (SnapModel.onAdd lib)

section
variable {lib : Libraries}

/-- A model that is added to a list has the id and the status of its payload. -/
lemma get_added_payload (lib : Libraries) (pkg : SnapPkg) :
    idOf (SnapModel.added lib pkg.encode) = .str pkg.id ∧
      (SnapModel.added lib pkg.encode).attributes.get .status = .str pkg.state.status :=
  ⟨SnapModel.get_added (by decide) _, SnapModel.get_added (by decide) _⟩

lemma nodup_strings {pkgs : List SnapPkg} (h : (pkgs.map (·.id)).Nodup) :
    (pkgs.map fun pkg => JSValue.str pkg.id).Nodup := by
  have hinjective : Function.Injective JSValue.str := fun _ _ heq => JSValue.str.inj heq
  have hmap := h.map hinjective
  rwa [List.map_map] at hmap

/-- Where the ids of the payloads are distinct, each of them makes a model. -/
lemma fetchList_of_nodup {pkgs : List SnapPkg} (h : (pkgs.map (·.id)).Nodup) :
    fetchList lib pkgs = pkgs.map fun pkg => SnapModel.added lib pkg.encode := by
  have hmake : ∀ pkg : SnapPkg, idOf (SnapModel.parsed lib pkg.encode) = .str pkg.id := by
    intro pkg
    rw [idOf, SnapModel.parsed, SnapModel.get_construct]
    rfl
  rw [fetchList, Collection.fetch_of_nodup _ hmake (nodup_strings h), List.map_map]
  rfl

end

/-! ## What the server answers -/

/-- The payloads have the ids of the records, and their states as the tracker has them before the
listing. -/
def Describes (env : Surroundings) (sv : Server) (snap : Snap) (pkg : SnapPkg) : Prop :=
  pkg.id = snap.name ∧
    pkg.state.status = (sv.stateTracker.state (some env.client) snap).1.status.text

/-- Describing a snap leaves what is tracked of the others. -/
lemma lookup_snapToPayload (env : Surroundings) (sv : Server) (snap : Snap) {name : String}
    (hne : name ≠ snap.name) :
    (snapToPayload env sv snap).2.stateTracker.lookup name = sv.stateTracker.lookup name := by
  rw [snapToPayload_server]
  rcases sv.stateTracker.state_snd (some env.client) snap with heq | ⟨-, heq⟩
  · rw [heq]
  · dsimp only
    rw [heq, StateTracker.lookup_drop_ne _ hne]

lemma describes_snapToPayload {env : Surroundings} {sv sv' : Server} {snap : Snap}
    (hlookup : sv'.stateTracker.lookup snap.name = sv.stateTracker.lookup snap.name) :
    Describes env sv snap (snapToPayload env sv' snap).1 := by
  refine ⟨?_, ?_⟩
  · simp only [snapToPayload]
    split_ifs <;> rfl
  · rw [snapToPayload_status, StateTracker.state_fst_congr _ hlookup]

/-- Records with distinct names are described as the tracker has them before the listing. -/
lemma payloads_describe (env : Surroundings) (sv : Server) {snaps : List Snap}
    (h : (snaps.map (·.name)).Nodup) :
    ∃ pkgs, (payloads env sv (snaps.map some)).1 = .ok pkgs ∧
      List.Forall₂ (Describes env sv) snaps pkgs := by
  have hafter : ∀ sv' : Server, (∀ snap ∈ snaps, sv'.stateTracker.lookup snap.name
        = sv.stateTracker.lookup snap.name) →
      ∃ pkgs, (payloads env sv' (snaps.map some)).1 = .ok pkgs ∧
        List.Forall₂ (Describes env sv) snaps pkgs := by
    induction snaps with
    | nil => exact fun _ _ => ⟨[], rfl, .nil⟩
    | cons snap snaps ih =>
        intro sv' hlookup
        rw [List.map_cons, List.nodup_cons] at h
        rw [List.forall_mem_cons] at hlookup
        obtain ⟨pkgs, hpkgs, hdescribes⟩ := ih h.2 (snapToPayload env sv' snap).2 (by
          intro other hother
          have hne : other.name ≠ snap.name := by
            intro heq
            exact h.1 (heq ▸ List.mem_map_of_mem (f := (·.name)) hother)
          rw [lookup_snapToPayload env sv' snap hne]
          exact hlookup.2 other hother)
        refine ⟨_, ?_, .cons (describes_snapToPayload hlookup.1) hdescribes⟩
        rw [List.map_cons, payloads]
        dsimp only
        rcases hrest : payloads env (snapToPayload env sv' snap).2 (snaps.map some) with ⟨ret, sv''⟩
        rw [hrest] at hpkgs
        cases hpkgs
        rfl
  exact hafter sv fun _ _ => rfl

lemma forall₂_mem {α β : Type*} {R : α → β → Prop} {as : List α} {bs : List β}
    (h : List.Forall₂ R as bs) : (∀ a ∈ as, ∃ b ∈ bs, R a b) ∧ ∀ b ∈ bs, ∃ a ∈ as, R a b := by
  induction h with
  | nil => simp
  | cons hab _ ih =>
      simp only [List.mem_cons, forall_eq_or_imp, exists_eq_or_imp]
      exact ⟨⟨.inl hab, fun a ha => .inr (ih.1 a ha)⟩, .inl hab, fun b hb => .inr (ih.2 b hb)⟩

/-- The answer to a listing, by what it lists. -/
lemma getAll_response_iff {form : String → String} {env : Surroundings} {sv : Server}
    {pkgs : List SnapPkg} : (getAll form env sv).response = some { code := 200, body := .snaps pkgs } ↔
      (allPackages env sv (snapCondition form) (if form "q" = "" then "." else form "q")
        (form "private_snaps" = "true") (form "section")).1 = .ok pkgs := by
  rw [getAll]
  split
  · next heq =>
      rw [heq]
      simp
  · next heq =>
      rw [heq]
      simp
  · next heq =>
      rw [heq]
      simp

/-! ## What is told of the snaps -/

/-- The forms of the requests for the tracked snaps and for the installed ones. -/
def trackedForm : String → String := URL.formOf [("tracked_snaps", "true")]

def installedForm : String → String := URL.formOf [("installed_only", "true")]

/-- What has been told of a snap: its status, and the one that it had when it was last told. -/
structure Seen where
  status : String
  before : String
  deriving DecidableEq

/-- What is told first. -/
def Seen.first (status : String) : Seen := ⟨status, status⟩

/-- What a listing tells: the names of the records, and the states that the tracker has them in; `none`
if the request fails. -/
def listing (form : String → String) (env : Surroundings) (sv : Server) :
    Option (List (String × Seen)) :=
  match snapRecords env sv (snapCondition form) (if form "q" = "" then "." else form "q")
      (form "private_snaps" = "true") (form "section") with
  | .error _ => none
  | .ok records =>
      if records.any (·.isNone) then none
      else some <| records.reduceOption.map fun snap =>
        (snap.name, .first (sv.stateTracker.state (some env.client) snap).1.status.text)

/-- The records of the tracked snaps that are listed have the names that are tracked. -/
lemma names_trackedRecords {c : SnapdClient} (hc : c.Documented) (names : List String) :
    ((trackedRecords c names).reduceOption.map (·.name)).Sublist names := by
  induction names with
  | nil => exact List.Sublist.refl _
  | cons name names ih =>
      rw [trackedRecords]
      rcases hsnap : getSnap c name with err | - | snap
      · exact List.nil_sublist _
      · exact ih.cons name
      · rw [← hc.named name snap hsnap]
        exact ih.cons_cons snap.name

/-- The snaps of a listing have distinct names. -/
lemma nodup_listing {env : Surroundings} (hc : env.client.Documented) {form : String → String}
    {sv : Server} {told : List (String × Seen)} (h : listing form env sv = some told) :
    (told.map (·.1)).Nodup := by
  rw [listing] at h
  split at h
  · cases h
  · next records hrecords =>
      split_ifs at h
      rw [← Option.some.inj h, List.map_map]
      show (records.reduceOption.map (·.name)).Nodup
      have hsome : ∀ {found : Except Error (List Snap)}, found.map (·.map some) = .ok records →
          ∃ snaps, found = .ok snaps ∧ records.reduceOption = snaps := by
        rintro (err | snaps) hfound
        · cases hfound
        · cases hfound
          exact ⟨snaps, rfl, by simp [List.reduceOption]⟩
      rw [snapRecords.eq_def] at hrecords
      split at hrecords
      · obtain ⟨snaps, hlist, rfl⟩ := hsome hrecords
        exact hc.distinct _ (.inl hlist)
      · cases hrecords
        exact (names_trackedRecords hc _).nodup (Finset.sort_nodup _ _)
      · obtain ⟨snaps, hfind, rfl⟩ := hsome hrecords
        exact hc.distinct _ (.inr ⟨_, hfind⟩)

/-- Where a listing tells nothing, its request fails. -/
lemma response_of_listing_none {form : String → String} {env : Surroundings} {sv : Server}
    (h : listing form env sv = none) (pkgs : List SnapPkg) :
    (getAll form env sv).response ≠ some { code := 200, body := .snaps pkgs } := by
  rw [listing] at h
  rw [ne_eq, getAll_response_iff, allPackages]
  split at h
  · next hrecords => simp [hrecords]
  · next records hrecords =>
      split_ifs at h with hnil
      have hnone : none ∈ records := by simpa using hnil
      simp [hrecords, payloads_none env sv hnone]

/-- Where it tells something, it is answered with payloads that tell the same. -/
lemma response_of_listing {form : String → String} {env : Surroundings} {sv : Server}
    (hc : env.client.Documented) {told : List (String × Seen)} (h : listing form env sv = some told) :
    ∃ pkgs : List SnapPkg, (getAll form env sv).response = some { code := 200, body := .snaps pkgs } ∧
      pkgs.map (fun pkg => (pkg.id, Seen.first pkg.state.status)) = told := by
  have hnodup := nodup_listing hc h
  rw [listing] at h
  split at h
  · cases h
  · next records hrecords =>
      split_ifs at h with hnil
      rw [← Option.some.inj h] at hnodup ⊢
      have hsome : records.reduceOption.map some = records := by
        have hall : none ∉ records := by simpa using hnil
        clear hrecords h hnil hnodup
        induction records with
        | nil => rfl
        | cons record records ih =>
            rw [List.mem_cons, not_or] at hall
            obtain ⟨snap, rfl⟩ := Option.ne_none_iff_exists'.mp (Ne.symm hall.1)
            rw [List.reduceOption_cons_of_some, List.map_cons, ih hall.2]
      have hnames : (records.reduceOption.map (·.name)).Nodup := by
        rwa [List.map_map] at hnodup
      obtain ⟨pkgs, hpkgs, hdescribes⟩ := payloads_describe env sv hnames
      refine ⟨pkgs, ?_, ?_⟩
      · rw [getAll_response_iff, allPackages, hrecords, ← hpkgs, hsome]
      · rw [← List.forall₂_eq_eq_eq, List.forall₂_map_left_iff, List.forall₂_map_right_iff]
        refine hdescribes.flip.imp ?_
        rintro pkg snap ⟨hid, hstatus⟩
        rw [hid, hstatus]

end Client

end Snapweb
