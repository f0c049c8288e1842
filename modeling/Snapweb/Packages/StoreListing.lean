import Snapweb.Packages.Handlers

/-!
# Store listings

A listing of the store reads: it should leave no trace for later requests to see.  But `getAll`
describes every snap that `Find` reports with `snapToPayload`, and that reads the tracked state
against the *store's* record.  The store says `available` of a snap that is installed, which shows
the removal of that snap completed, and the entry is dropped.  A listing also copies the icons of
the snaps that it takes for installed.

* `QuietListing` — no listed record completes an operation, and none has its icon copied.
* `store_listing_unobservable_iff` — a store listing can be inserted anywhere in a run without
  changing the response to any later request, exactly when it is quiet where it is inserted.
* `store_listing_forgets_removal` — a removal that a store listing makes the server forget.
-/

namespace Snapweb

/-- The form asks for a listing of the store. -/
def StoreListing (form : String → String) : Prop :=
  form "installed_only" ≠ "true" ∧ form "tracked_snaps" ≠ "true"

/-- What the store is searched for. -/
def findOptions (form : String → String) : FindOptions :=
  { query := queryEscape (if form "q" = "" then "." else form "q")
    isPrivate := form "private_snaps" = "true"
    sectionName := form "section" }

/-- The listing leaves no trace: the search fails, or the records that it finds are quiet. -/
def QuietListing (form : String → String) (env : Surroundings) (sv : Server) : Prop :=
  ∀ snaps, env.client.find (findOptions form) = .ok snaps → ∀ snap ∈ snaps, QuietRecord env sv snap

/-! ## What a store listing leaves -/

/-- A store listing leaves what describing the records that were found leaves. -/
lemma storeListing_server {form : String → String} (h : StoreListing form) (env : Surroundings)
    (sv : Server) : (getAll form env sv).server =
      match env.client.find (findOptions form) with
      | .error _ => sv
      | .ok snaps => (payloads env sv (snaps.map some)).2 := by
  have hrecords : snapRecords env sv (snapCondition form) (if form "q" = "" then "." else form "q")
      (form "private_snaps" = "true") (form "section")
        = (env.client.find (findOptions form)).map (·.map some) := by
    rw [snapCondition, if_neg h.1, if_neg h.2]
    rfl
  rw [getAll_server, allPackages, hrecords]
  rcases env.client.find (findOptions form) with err | snaps <;> rfl

/-- The server after describing a record, and then the others. -/
lemma payloads_cons_server (env : Surroundings) (sv : Server) (snap : Snap)
    (rest : List (Option Snap)) : (payloads env sv (some snap :: rest)).2
      = (payloads env (snapToPayload env sv snap).2 rest).2 := by
  simp only [payloads]
  split
  · next heq => rw [heq]
  · rfl

/-- Quiet records leave the server as it was. -/
lemma payloads_of_quiet {env : Surroundings} {sv : Server} {snaps : List Snap}
    (h : ∀ snap ∈ snaps, QuietRecord env sv snap) : (payloads env sv (snaps.map some)).2 = sv := by
  induction snaps with
  | nil => rfl
  | cons snap rest ih =>
      rw [List.map_cons, payloads_cons_server, snapToPayload_of_quiet (h snap List.mem_cons_self)]
      exact ih fun s hs => h s (List.mem_cons_of_mem _ hs)

/-- `sv'` has lost an entry of `sv`. -/
def Lost (sv sv' : Server) : Prop :=
  ∃ n e, sv.stateTracker.lookup n = some e ∧ sv'.stateTracker.lookup n = none

/-- `sv'` has an icon file that `sv` has not. -/
def Gained (sv sv' : Server) : Prop :=
  ∃ name icon, ¬ IconThere sv name icon ∧ sv'.files.Has (iconDstPath sv name icon)

/-- What is lost or gained stays so. -/
lemma lost_or_gained_of_grows {sv sv' sv'' : Server} (h : Lost sv sv' ∨ Gained sv sv')
    (hgrows : sv'.Grows sv'') : Lost sv sv'' ∨ Gained sv sv'' := by
  rcases h with ⟨n, e, he, hnone⟩ | ⟨name, icon, hno, hhas⟩
  · refine .inl ⟨n, e, he, ?_⟩
    rcases hgrows.lookup n with heq | hnone'
    · rw [heq, hnone]
    · exact hnone'
  · exact .inr ⟨name, icon, hno, hgrows.files _ hhas⟩

/-- A record that is not quiet leaves a trace. -/
lemma snapToPayload_of_not_quiet {env : Surroundings} {sv : Server} {snap : Snap}
    (h : ¬ QuietRecord env sv snap) :
    Lost sv (snapToPayload env sv snap).2 ∨ Gained sv (snapToPayload env sv snap).2 := by
  rw [snapToPayload_server]
  by_cases hrun : ∀ e, sv.stateTracker.lookup snap.name = some e →
      hasOperationCompleted e.status snap = false
  · -- nothing is completed, so an icon is copied
    have hcopy : asksForIcon snap = true ∧ CopiesIcon env sv snap.name := by
      by_contra hno
      exact h ⟨hrun, fun hask hcopies => hno ⟨hask, hcopies⟩⟩
    obtain ⟨icon, hicon, -, hno, -⟩ := hcopy.2
    refine .inr ⟨snap.name, icon, hno, ?_⟩
    simp only [hcopy.1, if_true]
    exact has_localIconPath_of_copies hicon hcopy.2
  · push Not at hrun
    obtain ⟨e, he, hdone⟩ := hrun
    have hdone : hasOperationCompleted e.status snap = true := by simpa using hdone
    refine .inl ⟨snap.name, e, he, ?_⟩
    rw [StateTracker.state_of_completed _ he hdone]
    exact StateTracker.lookup_drop_self _ _

/-- Records that are not all quiet leave a trace. -/
lemma payloads_of_not_quiet {env : Surroundings} {sv : Server} {snaps : List Snap}
    (h : ¬ ∀ snap ∈ snaps, QuietRecord env sv snap) :
    Lost sv (payloads env sv (snaps.map some)).2 ∨
      Gained sv (payloads env sv (snaps.map some)).2 := by
  induction snaps with
  | nil => exact absurd (fun snap hs => by cases hs) h
  | cons snap rest ih =>
      rw [List.map_cons, payloads_cons_server]
      by_cases hquiet : QuietRecord env sv snap
      · rw [snapToPayload_of_quiet hquiet]
        refine ih fun hrest => h fun s hs => ?_
        rcases List.mem_cons.mp hs with rfl | hs
        · exact hquiet
        · exact hrest s hs
      · exact lost_or_gained_of_grows (snapToPayload_of_not_quiet hquiet) (payloads_grows _ _ _)

/-! ## Telling two servers apart -/

lemma Status.text_injective : Function.Injective Status.text := by
  intro a b h
  cases a <;> cases b <;> first | rfl | exact absurd h (by decide)

/-- A record that leaves an operation unfinished. -/
def unfinishedRecord (op : Operation) (name : String) : Snap :=
  { name := name
    status :=
      match op with
      | .install => clientStatusAvailable
      | .uninstall => clientStatusActive
      | .enable => clientStatusInstalled
      | .disable => clientStatusActive }

lemma hasOperationCompleted_unfinishedRecord (op : Operation) (name : String) :
    hasOperationCompleted op.status (unfinishedRecord op name) = false := by
  cases op <;> rfl

/-- Asking for one snap gives its payload. -/
lemma answers_get {env : Surroundings} {name : String} {snap : Snap}
    (h : getSnap env.client name = .ok (some snap)) (sv : Server) :
    Responder.answers serve sv [.request env (.get name)]
      = [some { code := 200, body := .snap (snapToPayload env sv snap).1 }] := by
  simp only [Responder.answers, serve, handle, get, packagePayload, h]

/-- Equal answers to `get` describe the snap alike. -/
lemma snapToPayload_eq_of_answers {env : Surroundings} {name : String} {snap : Snap} {sv sv' : Server}
    (h : getSnap env.client name = .ok (some snap))
    (heq : Responder.answers serve sv [.request env (.get name)]
      = Responder.answers serve sv' [.request env (.get name)]) :
    (snapToPayload env sv snap).1 = (snapToPayload env sv' snap).1 := by
  simpa [answers_get h] using heq

/-- A request that sees that an entry is lost: the snap is asked for while its operation runs. -/
lemma exists_request_of_lost {sv sv' : Server} (ht : sv.stateTracker.Tracking) (h : Lost sv sv') :
    ∃ later, Responder.answers serve sv later ≠ Responder.answers serve sv' later := by
  obtain ⟨n, e, he, hnone⟩ := h
  obtain ⟨op, changeID, rfl⟩ := ht n e he
  let snap := unfinishedRecord op n
  let env : Surroundings :=
    { client := .knowing snap "", mkdirAll := false, write := fun _ => .refused }
  refine ⟨[.request env (.get n)], fun heq => ?_⟩
  have hsnap : getSnap env.client n = .ok (some snap) := rfl
  have hpkg := snapToPayload_eq_of_answers hsnap heq
  have hstatus := congrArg (fun pkg => pkg.state.status) hpkg
  simp only [snapToPayload_status] at hstatus
  have hlookup : sv.stateTracker.lookup snap.name
      = some { status := op.status, changeID := changeID } := he
  have hrunning := (StateTracker.state_of_running (some env.client) hlookup
    (hasOperationCompleted_unfinishedRecord op n)).1
  have hsnapd : sv'.stateTracker.state (some env.client) snap
      = ({ status := translateStatus snap }, sv'.stateTracker) :=
    StateTracker.state_of_untracked _ hnone
  rw [hrunning, hsnapd] at hstatus
  exact op.status_ne_translateStatus snap (Status.text_injective hstatus)

/-- The icon path of an installed snap, as told to the client. -/
lemma snapToPayload_icon_of_installed {env : Surroundings} {sv : Server} {snap : Snap}
    (h : isInstalled snap = true) :
    (snapToPayload env sv snap).1.icon = installedIcon env sv snap.name := by
  simp only [snapToPayload, h, if_true]
  rfl

/-- A request that sees that an icon file is there: the snap is asked for when it is installed
and its icon cannot be written. -/
lemma exists_request_of_gained {sv sv' : Server} (hgrows : sv.Grows sv') (h : Gained sv sv') :
    ∃ later, Responder.answers serve sv later ≠ Responder.answers serve sv' later := by
  obtain ⟨name, icon, hno, hhas⟩ := h
  let snap : Snap := { name := name, status := clientStatusActive }
  let env : Surroundings :=
    { client := { SnapdClient.knowing snap "" with icon := fun _ => .ok icon }
      mkdirAll := true
      write := fun _ => .refused }
  refine ⟨[.request env (.get name)], fun heq => ?_⟩
  have hsnap : getSnap env.client name = .ok (some snap) := rfl
  have hpkg := snapToPayload_eq_of_answers hsnap heq
  have hicon := congrArg SnapPkg.icon hpkg
  have hinst : isInstalled snap = true := rfl
  rw [snapToPayload_icon_of_installed hinst, snapToPayload_icon_of_installed hinst] at hicon
  have hdst : iconDstPath sv' name icon = iconDstPath sv name icon := by
    rw [iconDstPath, iconDstPath, hgrows.snapData]
  have hanswer : env.client.icon name = .ok icon := rfl
  have hfound := localIconPath_of_present hanswer rfl (.inl (by rw [hdst]; exact hhas))
  have hmissing := localIconPath_of_written hanswer rfl hno
  rw [if_neg (show WriteResult.refused ≠ .done by decide)] at hmissing
  simp only [installedIcon, snap, hfound, hmissing] at hicon
  exact iconURL_ne_empty name icon hicon.symm

/-! ## Inserting a store listing -/

/-- **Store listings.**  Insert a store listing at any point of any run: the responses to all
later requests stay the same, whatever these requests are and whatever snapd answers them, if and
only if the search fails or every record that it finds is quiet, that is, leaves the operation
tracked on its snap unfinished and has no icon copied. -/
theorem store_listing_unobservable_iff (snapData : String) (files : Files) (before : List Event)
    (env : Surroundings) {form : String → String} (hform : StoreListing form) :
    (∀ later,
      Responder.answers serve
          (Responder.after serve (.start snapData files) (before ++ [.request env (.getAll form)])) later
        = Responder.answers serve (Responder.after serve (.start snapData files) before) later) ↔
      QuietListing form env (Responder.after serve (.start snapData files) before) := by
  have htracking : (Responder.after serve (.start snapData files) before).stateTracker.Tracking :=
    Responder.after_invariant (I := fun sv : Server => sv.stateTracker.Tracking) serve_tracking
      StateTracker.Reachable.new.tracking before
  rw [Responder.after_append]
  generalize Responder.after serve (.start snapData files) before = sv at htracking ⊢
  have hgrows := getAll_grows form env sv
  have hserver := storeListing_server hform env sv
  change (∀ later, Responder.answers serve (getAll form env sv).server later = _) ↔ _
  constructor
  · intro hsame snaps hfind
    by_contra hloud
    simp only [hfind] at hserver
    obtain ⟨later, hlater⟩ : ∃ later, Responder.answers serve sv later
        ≠ Responder.answers serve (getAll form env sv).server later := by
      have htrace := payloads_of_not_quiet hloud
      rw [← hserver] at htrace
      rcases htrace with hlost | hgained
      · exact exists_request_of_lost htracking hlost
      · exact exists_request_of_gained hgrows hgained
    exact hlater (hsame later).symm
  · intro hquiet later
    have hsv : (getAll form env sv).server = sv := by
      rw [hserver]
      split
      · rfl
      · next snaps hfind => exact payloads_of_quiet (hquiet snaps hfind)
    rw [hsv]

/-- The surroundings of a request when `hello-world` is installed and the store reports it with
`status`. -/
def reporting (status : String) : Surroundings :=
  { client :=
      { SnapdClient.knowing { name := "hello-world", status := clientStatusActive } "1" with
        find := fun _ => .ok [{ name := "hello-world", status := status }] }
    mkdirAll := false
    write := fun _ => .refused }

/-- The store reports `hello-world` as installed while it is being removed, and the removal stays
tracked: the snap is described as before. -/
theorem quiet_store_listing_unobservable :
    Responder.answers serve
        (Responder.after serve (.start "" ∅)
          ([.request (reporting "active") (.remove "hello-world")] ++
            [.request (reporting "active") (.getAll fun _ => "")]))
        [.request (reporting "active") (.get "hello-world")]
      = Responder.answers serve
        (Responder.after serve (.start "" ∅) [.request (reporting "active") (.remove "hello-world")])
        [.request (reporting "active") (.get "hello-world")] := by
  refine (store_listing_unobservable_iff "" ∅
    [.request (reporting "active") (.remove "hello-world")] (reporting "active")
    (show StoreListing fun _ => "" from ⟨by decide, by decide⟩)).mpr ?_ _
  intro snaps hfind snap hsnap
  cases hfind
  obtain rfl := List.mem_singleton.mp hsnap
  refine ⟨fun e he => ?_, fun _ hcopies => ?_⟩
  · have hentry : some e = some { status := .uninstalling, changeID := "1" } := by
      rw [← he]
      decide
    cases hentry
    decide
  · obtain ⟨icon, hicon, -⟩ := hcopies
    cases hicon

/-- `hello-world` is being removed.  A store listing that reports it as available makes the server
forget the removal: the snap is described as `active` and no longer as `uninstalling`. -/
theorem store_listing_forgets_removal :
    ¬ ∀ (snapData : String) (files : Files) (before : List Event) (env : Surroundings)
      (form : String → String) (later : List Event), StoreListing form →
      Responder.answers serve
          (Responder.after serve (.start snapData files) (before ++ [.request env (.getAll form)])) later
        = Responder.answers serve (Responder.after serve (.start snapData files) before) later := by
  intro h
  have heq := h "" ∅ [.request (reporting "available") (.remove "hello-world")]
    (reporting "available") (fun _ => "") [.request (reporting "available") (.get "hello-world")]
    ⟨by decide, by decide⟩
  have hsnap : getSnap (reporting "available").client "hello-world"
      = .ok (some { name := "hello-world", status := clientStatusActive }) := rfl
  have hpkg := snapToPayload_eq_of_answers hsnap heq
  have hstatus := congrArg (fun pkg => pkg.state.status) hpkg
  exact absurd hstatus (by decide)

end Snapweb
