import Snapweb.Packages.Payload

/-!
# Listings of the tracked snaps

A listing of the tracked snaps looks each of them up, in the order of their names, and leaves the
loop at the first one that cannot be found.  The error stays in the loop's own variable, so the
listing succeeds with the snaps that came before.

* `trackedListing_iff` — when a listing leaves out none of the snaps that can be found.
* `trackedListing_hides` — a snap that can be found, hidden by one that cannot.
-/

namespace Snapweb

/-- The record of a snap that `getSnap` can retrieve. -/
def retrieved (c : SnapdClient) (name : String) : Option Snap :=
  match getSnap c name with
  | .ok snap => snap
  | .error _ => none

/-- The names of the tracked snaps, in order. -/
def trackedNames (sv : Server) : List String := sortStrings sv.stateTracker.states.keys

/-- The payload describes the record, at some point after `sv`. -/
def DescribesAfter (env : Surroundings) (sv : Server) (snap : Snap) (pkg : SnapPkg) : Prop :=
  ∃ sv', sv.Grows sv' ∧ pkg = (snapToPayload env sv' snap).1

/-- The listing fails, or it has one payload for each tracked snap whose record can be retrieved, in
the order of the names. -/
def ListsTracked (env : Surroundings) (sv : Server) : Returned (List SnapPkg) → Prop
  | .error _ => True
  | .ok pkgs =>
      List.Forall₂ (DescribesAfter env sv) ((trackedNames sv).filterMap (retrieved env.client)) pkgs
  | .panic => False

/-- Names that come to a record, and after them names that do not, of which the first one fails. -/
def FoundFirst (c : SnapdClient) (names : List String) : Prop :=
  ∃ found missing, names = found ++ missing ∧
    (∀ name ∈ found, ∃ snap, getSnap c name = .ok (some snap)) ∧
    (∀ name ∈ missing, retrieved c name = none) ∧
    ∀ name, missing.head? = some name → ∃ err, getSnap c name = .error err

/-! ## The two loops -/

lemma trackedRecords_append {c : SnapdClient} {found : List String}
    (hfound : ∀ name ∈ found, ∃ snap, getSnap c name = .ok (some snap)) (missing : List String) :
    trackedRecords c (found ++ missing)
      = (found.filterMap (retrieved c)).map some ++ trackedRecords c missing := by
  induction found with
  | nil => rfl
  | cons name found ih =>
      obtain ⟨snap, hsnap⟩ := hfound name List.mem_cons_self
      have hretrieved : retrieved c name = some snap := by rw [retrieved, hsnap]
      have hrest := ih fun name hname => hfound name (List.mem_cons_of_mem _ hname)
      rw [List.cons_append, trackedRecords, hsnap, List.filterMap_cons_some hretrieved,
        List.map_cons, List.cons_append, ← hrest]

/-- The loop breaks where the first name fails. -/
lemma trackedRecords_failed {c : SnapdClient} {missing : List String}
    (hfirst : ∀ name, missing.head? = some name → ∃ err, getSnap c name = .error err) :
    trackedRecords c missing = [] := by
  cases missing with
  | nil => rfl
  | cons name missing =>
      obtain ⟨err, herr⟩ := hfirst name rfl
      rw [trackedRecords, herr]

/-- Records that are there are described, one after the other. -/
lemma payloads_map_some (env : Surroundings) (sv : Server) (snaps : List Snap) :
    ∃ pkgs, (payloads env sv (snaps.map some)).1 = .ok pkgs ∧
      List.Forall₂ (DescribesAfter env sv) snaps pkgs := by
  have hafter : ∀ sv', sv.Grows sv' → ∃ pkgs, (payloads env sv' (snaps.map some)).1 = .ok pkgs ∧
      List.Forall₂ (DescribesAfter env sv) snaps pkgs := by
    induction snaps with
    | nil => exact fun sv' _ => ⟨[], rfl, .nil⟩
    | cons snap snaps ih =>
        intro sv' hgrows
        obtain ⟨pkgs, hpkgs, hdescribes⟩ := ih _ (hgrows.trans (snapToPayload_grows env sv' snap))
        refine ⟨_ :: pkgs, ?_, .cons ⟨sv', hgrows, rfl⟩ hdescribes⟩
        rw [List.map_cons, payloads]
        dsimp only
        rcases hrest : payloads env (snapToPayload env sv' snap).2 (snaps.map some) with ⟨ret, sv''⟩
        rw [hrest] at hpkgs
        cases hpkgs
        rfl
  exact hafter sv (.refl sv)

/-- A `nil` record among them panics. -/
lemma payloads_none (env : Surroundings) (sv : Server) {snaps : List (Option Snap)}
    (h : none ∈ snaps) : (payloads env sv snaps).1 = .panic := by
  induction snaps generalizing sv with
  | nil => cases h
  | cons snap snaps ih =>
      cases snap with
      | none => rfl
      | some snap =>
          have hrest := ih (snapToPayload env sv snap).2
            ((List.mem_cons.mp h).resolve_left (Option.some_ne_none snap).symm)
          rw [payloads]
          dsimp only
          rcases hpayloads : payloads env (snapToPayload env sv snap).2 snaps with ⟨ret, sv'⟩
          rw [hpayloads] at hrest
          cases hrest
          rfl

/-! ## What is listed -/

lemma allPackages_tracked (env : Surroundings) (sv : Server) (query : String) (isPrivate : Bool)
    (sectionName : String) : allPackages env sv .trackedSnaps query isPrivate sectionName
      = payloads env sv (trackedRecords env.client (trackedNames sv)) := rfl

/-- The names up to the first one that comes to no record, and the others. -/
lemma exists_found (c : SnapdClient) (names : List String) :
    ∃ found missing, names = found ++ missing ∧
      (∀ name ∈ found, ∃ snap, getSnap c name = .ok (some snap)) ∧
      ∀ name, missing.head? = some name → ∀ snap, getSnap c name ≠ .ok (some snap) := by
  induction names with
  | nil => exact ⟨[], [], rfl, fun _ h => absurd h List.not_mem_nil, fun _ h => by cases h⟩
  | cons name names ih =>
      by_cases hname : ∃ snap, getSnap c name = .ok (some snap)
      · obtain ⟨found, missing, hsplit, hfound, hfirst⟩ := ih
        refine ⟨name :: found, missing, congrArg (name :: ·) hsplit, fun n hn => ?_, hfirst⟩
        rcases List.mem_cons.mp hn with rfl | hn
        · exact hname
        · exact hfound n hn
      · refine ⟨[], name :: names, rfl, fun _ h => absurd h List.not_mem_nil, fun n hn snap hsnap => ?_⟩
        cases hn
        exact hname ⟨snap, hsnap⟩

/-- **A listing of the tracked snaps** fails, or lists all that can be found, exactly where none
that can be found comes after one that cannot, and no record is `nil`. -/
theorem trackedListing_iff (env : Surroundings) (sv : Server) (query : String) (isPrivate : Bool)
    (sectionName : String) :
    ListsTracked env sv (allPackages env sv .trackedSnaps query isPrivate sectionName).1 ↔
      FoundFirst env.client (trackedNames sv) := by
  rw [allPackages_tracked]
  constructor
  · intro hlists
    obtain ⟨found, missing, hsplit, hfound, hfirst⟩ := exists_found env.client (trackedNames sv)
    rw [hsplit, trackedRecords_append hfound] at hlists
    have herr : ∀ name, missing.head? = some name → ∃ err, getSnap env.client name = .error err := by
      intro name hname
      rcases hget : getSnap env.client name with err | _ | snap
      · exact ⟨err, rfl⟩
      · obtain ⟨rest, rfl⟩ := List.head?_eq_some_iff.mp hname
        rw [trackedRecords, hget, payloads_none env sv
          (List.mem_append_right _ List.mem_cons_self)] at hlists
        exact hlists.elim
      · exact absurd hget (hfirst name hname snap)
    refine ⟨found, missing, hsplit, hfound, ?_, herr⟩
    rw [trackedRecords_failed herr, List.append_nil] at hlists
    obtain ⟨pkgs, hpkgs, hdescribes⟩ :=
      payloads_map_some env sv (found.filterMap (retrieved env.client))
    rw [hpkgs, ListsTracked, hsplit, List.filterMap_append] at hlists
    have hlen := hlists.length_eq.trans hdescribes.length_eq.symm
    rw [List.length_append, Nat.add_eq_left, List.length_eq_zero_iff,
      List.filterMap_eq_nil_iff] at hlen
    exact hlen
  · rintro ⟨found, missing, hsplit, hfound, hmissing, hfirst⟩
    obtain ⟨pkgs, hpkgs, hdescribes⟩ :=
      payloads_map_some env sv (found.filterMap (retrieved env.client))
    have hnone : missing.filterMap (retrieved env.client) = [] :=
      List.filterMap_eq_nil_iff.mpr hmissing
    rw [hsplit, trackedRecords_append hfound, trackedRecords_failed hfirst, List.append_nil, hpkgs,
      ListsTracked, hsplit, List.filterMap_append, hnone, List.append_nil]
    exact hdescribes

/-! ## A hidden snap -/

/-- The surroundings of a request when `app1` cannot be found any more and `app2` is in the store. -/
def withoutApp1 : Surroundings :=
  { client :=
      { SnapdClient.knowing { name := "app2", status := clientStatusAvailable } "1" with
        snap := fun _ => .error "cannot find snap"
        findOne := fun name =>
          if name = "app2" then .ok (some { name := "app2", status := clientStatusAvailable })
          else .error "snap not found" }
    mkdirAll := false
    write := fun _ => .refused }

/-- A server on which two snaps are being installed. -/
def installingBoth : Server :=
  { stateTracker :=
      (StateTracker.new.trackInstall "1" { name := "app1", status := clientStatusAvailable }).trackInstall
        "2" { name := "app2", status := clientStatusAvailable }
    snapData := ""
    files := ∅ }

lemma trackedNames_installingBoth : trackedNames installingBoth = ["app1", "app2"] := by
  have hkeys : installingBoth.stateTracker.states.keys = insert "app1" {"app2"} := by decide
  rw [trackedNames, hkeys, sortStrings, Finset.sort_insert (· ≤ ·) (by decide) (by decide),
    Finset.sort_singleton]

/-- `app2` can be found, and the listing succeeds without it. -/
theorem trackedListing_hides :
    (allPackages withoutApp1 installingBoth .trackedSnaps "." false "").1 = .ok [] ∧
      ¬ ListsTracked withoutApp1 installingBoth
        (allPackages withoutApp1 installingBoth .trackedSnaps "." false "").1 := by
  have hret : (allPackages withoutApp1 installingBoth .trackedSnaps "." false "").1 = .ok [] := by
    rw [allPackages_tracked, trackedNames_installingBoth]
    rfl
  refine ⟨hret, fun hlists => ?_⟩
  rw [hret, ListsTracked, trackedNames_installingBoth] at hlists
  exact absurd hlists.length_eq (by decide)
end Snapweb
