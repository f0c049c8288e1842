import Snapweb.Client.Consistency
import Snapweb.System.Polls

/-!
# The store

`controllers/store.js`, `controllers/search.js` and `common/snaplists.js`: a page of the store has the
list of the snaps that snapd finds.  When it has come, the installed snaps are asked for, and those of
the list that are among them are marked; before that and after it, the models of the list are polled.

* `queryUnescape_queryEscape` — the text of a search can be read back from what snapd is asked.
* `visit_asked_iff` — what snapd is asked for a visit, and which visits it is asked the same for.
* `store_shows` — what a visit shows, after any run.
-/

namespace Snapweb

/-- `FormValue`; a `GET` has its form in the query. -/
def HTTPRequest.formValue (r : HTTPRequest) (name : String) : String := URL.formValue r.rawQuery name

/-! ## `QueryEscape` -/

namespace Client

open Backbone

/-! ## Visits -/

/-- What is opened: the store, a section of it, or the results of a search. -/
inductive Visit
  | index
  | sectionOf (s : String)
  | query (q : Option String)

/-- What a visit asks the server with. -/
def Visit.data : Visit → List (String × String)
  | .index => [("section", "featured")]
  | .sectionOf s => if s = "private" then [("private_snaps", "true")] else [("section", s)]
  | .query q => [("q", q.getD "")]

/-- The form of a visit, as the server reads it. -/
def Visit.form (v : Visit) : String → String := URL.formOf v.data

section
variable {site : Site API APIReply} {tokens : ℕ → List Char} {mux : Mux Endpoint}
  {s : SiteState API} {r : HTTPRequest}

end

/-- The request of a list, with the token. -/
def fetching (data : List (String × String)) : HTTPRequest :=
  { Site.requestTo "GET" "/api/v2/packages/" with
    cookies := [("SM", ['t'])]
    rawQuery := URL.param data }

/-- A page of the store: its list, and whether the answer to the request for the installed snaps has
come. -/
structure StorePage where
  snaplist : PolledList
  updated : Bool

/-- What happens: something happens to the list, or the request for the installed snaps is answered. -/
inductive StoreEvent
  | list (e : ListEvent)
  | installed (env : Surroundings) (sv : Server)

/-- The snapd that answers. -/
def StoreEvent.client : StoreEvent → Option SnapdClient
  | list e => e.client
  | installed env _ => some env.client

/-- `updateInstalledStates`, when the installed snaps have come; of those with one id,
`installedById` has the last. -/
def updateInstalledStates (lib : Libraries) (installed : List SnapModel)
    (collection : List PolledSnap) : List PolledSnap :=
  collection.map fun s =>
    match installed.reverse.find? fun m => idOf m = idOf s.model with
    | some m => { s with model := s.model.updateInstalledState lib (m.attributes.get .icon) }
    | none => s

/-- `limits.installedSnapListMaxItems`. -/
def installedSnapListMaxItems : ℕ := 20

namespace StorePage

/-- The request of the list has been made. -/
def start : StorePage where
  snaplist := .awaited
  updated := false

/-- One event of a visit. -/
def next (lib : Libraries) (v : Visit) (s : StorePage) : StoreEvent → Option StorePage
  | .list e => (s.snaplist.next lib v.form e).map fun snaplist => { s with snaplist }
  | .installed env sv =>
      match s.snaplist, s.updated with
      | .listed snaplist, false =>
          some <| match (getAll installedForm env sv).response with
            | some { code := 200, body := .snaps pkgs } =>
                ⟨.listed (updateInstalledStates lib (fetchList lib pkgs) snaplist), true⟩
            | _ => ⟨.listed snaplist, true⟩
      | _, _ => none

/-- The events, as a machine. -/
def machine (lib : Libraries) (v : Visit) : Machine StorePage StoreEvent := ⟨fun s e => s.next lib v e⟩

/-- What the page shows: ids and statuses of `all`. -/
def shown (s : StorePage) : List (JSValue × JSValue) :=
  ((s.snaplist.models.getD []).take installedSnapListMaxItems).map fun m =>
    (idOf m, m.attributes.get .status)

end StorePage

/-! ## What has been told -/

/-- What has been told of the snaps of a visit, after an event: those that are installed are marked. -/
def StoreEvent.tell (v : Visit) (told : Option (List (String × Seen))) :
    StoreEvent → Option (List (String × Seen))
  | .list e => e.tell v.form told
  | .installed env sv => told.map fun told => told.map fun entry =>
      if entry.1 ∈ ((listing installedForm env sv).getD []).map (·.1) then
        (entry.1, .first InstallState.installed.text)
      else entry

/-- What events have told. -/
def Visit.told (v : Visit) (es : List StoreEvent) : Option (List (String × Seen)) :=
  es.foldl (StoreEvent.tell v) none

/-- A model that is marked. -/
lemma Knows.mark {s : PolledSnap} {entry : String × Seen} (h : Knows s entry) (lib : Libraries)
    (icon : JSValue) : Knows { s with model := s.model.updateInstalledState lib icon }
      (entry.1, .first InstallState.installed.text) := by
  have hid : (s.model.setStatus lib .installed).attributes.get .id = .str entry.1 := by
    rw [SnapModel.get_setStatus (by decide), if_neg (by decide)]
    exact h.id
  have hstatus : (s.model.setStatus lib .installed).attributes.get .status
      = .str InstallState.installed.text := by
    rw [SnapModel.get_setStatus (by decide), if_pos rfl]
    rfl
  refine ⟨?_, ?_, hid, hstatus, h.fetches⟩
  · exact (SnapModel.get_set_single (frames_handlers lib (by decide)) (by decide) icon).trans hid
  · exact (SnapModel.get_set_single (frames_handlers lib (by decide)) (by decide) icon).trans hstatus

/-- Those that are among the installed ones are marked. -/
lemma knows_updateInstalledStates (lib : Libraries) {installed : List SnapModel} {names : List String}
    (hinstalled : installed.map idOf = names.map .str) {s : PolledSnap} {entry : String × Seen}
    (h : Knows s entry) :
    Knows (match installed.reverse.find? fun m => idOf m = idOf s.model with
      | some m => { s with model := s.model.updateInstalledState lib (m.attributes.get .icon) }
      | none => s)
      (if entry.1 ∈ names then (entry.1, .first InstallState.installed.text) else entry) := by
  have hmem : entry.1 ∈ names ↔ ∃ m ∈ installed, idOf m = idOf s.model := by
    rw [h.id, ← List.mem_map, hinstalled]
    simp
  split
  · next m hfound =>
      have hmarked : entry.1 ∈ names := by
        rw [hmem]
        exact ⟨m, List.mem_reverse.mp (List.mem_of_find?_eq_some hfound),
          by simpa using List.find?_some hfound⟩
      rw [if_pos hmarked]
      exact h.mark lib _
  · next hnone =>
      have hunmarked : entry.1 ∉ names := by
        rw [hmem]
        rintro ⟨m, hm, heq⟩
        exact absurd heq (by simpa using List.find?_eq_none.mp hnone m (List.mem_reverse.mpr hm))
      rw [if_neg hunmarked]
      exact h

/-- The installed snaps that the list is compared with are those that have been told; they are none if
the request fails. -/
lemma next_installed (lib : Libraries) (v : Visit) {env : Surroundings} (hc : env.client.Documented)
    (sv : Server) {s s' : StorePage} (hnext : s.next lib v (.installed env sv) = some s') :
    ∃ models installed, s.snaplist = .listed models ∧
      s'.snaplist = .listed (updateInstalledStates lib installed models) ∧
      installed.map idOf = (((listing installedForm env sv).getD []).map (·.1)).map .str := by
  rw [StorePage.next] at hnext
  split at hnext
  · next models hlisted _ =>
      rcases hlisting : listing installedForm env sv with - | told
      · refine ⟨models, [], hlisted, ?_, rfl⟩
        split at hnext
        · next heq => exact absurd heq (response_of_listing_none hlisting _)
        · cases hnext
          simp [updateInstalledStates]
      · obtain ⟨pkgs, hresponse, rfl⟩ := response_of_listing hc hlisting
        have hids : (pkgs.map (·.id)).Nodup := by
          have hnodup := nodup_listing hc hlisting
          rwa [List.map_map] at hnodup
        refine ⟨models, fetchList lib pkgs, hlisted, ?_, ?_⟩
        · rw [hresponse] at hnext
          cases hnext
          rfl
        · rw [fetchList_of_nodup hids]
          simp [get_added_payload]
  · cases hnext

/-- One event of a visit. -/
lemma follows_next (lib : Libraries) (v : Visit) {s s' : StorePage}
    {told : Option (List (String × Seen))} (h : s.snaplist.Follows told) {e : StoreEvent}
    (he : ∀ c ∈ e.client, c.Documented) (hnext : s.next lib v e = some s') :
    s'.snaplist.Follows (e.tell v told) := by
  cases e with
  | list e =>
      obtain ⟨snaplist, hlist, rfl⟩ := Option.map_eq_some_iff.mp hnext
      exact h.next e he hlist
  | installed env sv =>
      obtain ⟨models, installed, hlisted, hlisted', hinstalled⟩ :=
        next_installed lib v (he env.client rfl) sv hnext
      rw [hlisted] at h
      cases told with
      | none => exact h.elim
      | some told =>
          rw [hlisted']
          refine h.map (fun entry => ?_) fun s entry _ hknows =>
            knows_updateInstalledStates lib hinstalled hknows
          split_ifs <;> rfl

/-- **What the store shows.**  After any run of a visit (its list comes, the installed snaps are asked
for and come, and models are polled at any time), the page shows the first twenty of the snaps that
have been told, in their order, and each with the status that has been told of it last. -/
theorem store_shows (lib : Libraries) (v : Visit) {es : List StoreEvent}
    (hes : ∀ e ∈ es, ∀ c ∈ e.client, c.Documented) {s : StorePage}
    (hs : (StorePage.machine lib v).exec .start es = some s) :
    s.shown = (((v.told es).getD []).take 20).map fun entry =>
      (.str entry.1, .str entry.2.status) := by
  have hstart : StorePage.start.snaplist.Follows none := trivial
  have hfollows : s.snaplist.Follows (v.told es) :=
    Machine.exec_simulates (R := fun s told => s.snaplist.Follows told)
      (fun _ _ _ _ h he hnext => follows_next lib v h he hnext) hstart hes hs
  rw [StorePage.shown]
  rcases hfollows.models with ⟨hnone, htold⟩ | ⟨models, entries, hsome, htold, hknows, -⟩
  · rw [hnone, htold]
    rfl
  · rw [hsome, htold, Option.getD_some, Option.getD_some, ← List.map_take, List.map_map,
      ← List.forall₂_eq_eq_eq, List.forall₂_map_left_iff, List.forall₂_map_right_iff]
    refine (List.forall₂_take 20 hknows).imp ?_
    intro s entry h
    have hid : idOf s.model = .str entry.1 := h.id
    have hstatus : s.model.attributes.get .status = .str entry.2.status := h.status
    rw [Function.comp_apply, hid, hstatus]

/-- The snap is found while it is being installed, marked when it is installed, and polled. -/
def marked : List StoreEvent :=
  [.list (.answer installingSurroundings installingServer), .list (.poll "hello-world" .fire),
    .installed installedSurroundings installingServer,
    .list (.poll "hello-world" (.answer 0 installedSurroundings installingServer))]

lemma marked_runs : ((StorePage.machine plainLibraries (.query (some "hello world"))).exec .start
    marked).isSome = true := by
  decide +kernel

/-- It is shown as the poll has told. -/
theorem marked_shown : ∃ s,
    (StorePage.machine plainLibraries (.query (some "hello world"))).exec .start marked = some s ∧
      s.shown = [(.str "hello-world", .str "active")] := by
  obtain ⟨s, hs⟩ := Option.isSome_iff_exists.mp marked_runs
  have hes : ∀ e ∈ marked, ∀ c ∈ e.client, c.Documented := by
    intro e he c hc
    simp only [marked, List.mem_cons, List.not_mem_nil, or_false] at he
    rcases he with rfl | rfl | rfl | rfl <;> cases hc
    · exact documented_installing
    · exact documented_installed
    · exact documented_installed
  exact ⟨s, hs, store_shows plainLibraries _ hes hs⟩

end Client

end Snapweb
