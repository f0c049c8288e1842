import Mathlib.Data.List.Perm.Basic
import Snapweb.System.Polls

/-!
# The home page

`controllers/home.js` and `views/home.js`: the page is made from two lists, that of the tracked snaps
and that of the installed ones.  The server answers them one after the other, in any order, and the
models of a list that has come are polled while the other one is awaited.

* `find_home` — which model stands for a snap.
* `run_follows` — after any run the lists are as they have been told.
* `home_shows_iff` — which snaps the page shows, and with which status.
-/

namespace Snapweb

namespace Client

open Backbone

/-! ## The controller -/

/-- The model is being installed. -/
def isInstalling (m : SnapModel) : Bool :=
  m.attributes.get .status = InstallState.installing.value

/-- What `index` shows, from its two lists: the objects of the models. -/
def home (trackedSnapList installedSnapList : List SnapModel) : List (Obj Attr JSValue) :=
  let tracked := (Collection.add idOf [] (trackedSnapList.filter isInstalling)).map (·.attributes)
  let installed := Collection.add idOf installedSnapList
    (tracked.map (SnapModel.construct ⟨Obj.empty, Obj.empty⟩))
  Collection.add (·.get .id) [] (tracked ++ installed.map (·.attributes))

/-- The controller, until there is a page: its two lists. -/
structure Home where
  trackedSnapList : PolledList
  installedSnapList : PolledList

/-- What happens: something happens to one of the lists. -/
inductive HomeEvent
  | tracked (e : ListEvent)
  | installed (e : ListEvent)

/-- The snapd that answers. -/
def HomeEvent.client : HomeEvent → Option SnapdClient
  | tracked e => e.client
  | installed e => e.client

namespace Home

/-- Both requests have been made. -/
def start : Home where
  trackedSnapList := .awaited
  installedSnapList := .awaited

/-- One event. -/
def next (lib : Libraries) (s : Home) : HomeEvent → Option Home
  | .tracked e => (s.trackedSnapList.next lib trackedForm e).map fun trackedSnapList =>
      { s with trackedSnapList }
  | .installed e => (s.installedSnapList.next lib installedForm e).map fun installedSnapList =>
      { s with installedSnapList }

/-- The events, as a machine. -/
def machine (lib : Libraries) : Machine Home HomeEvent := ⟨fun s e => s.next lib e⟩

/-- The page, if it is made now; there is none unless both requests have succeeded.  (`then` runs at
some time after that, while the models go on to refresh themselves.) -/
def page (s : Home) : Option (List (Obj Attr JSValue)) := do
  let trackedSnapList ← s.trackedSnapList.models
  let installedSnapList ← s.installedSnapList.models
  return home trackedSnapList installedSnapList

end Home

/-! ## The view -/

/-- The snap is one of the system's. -/
def isSystem (o : Obj Attr JSValue) : Bool :=
  (nonRemovableSnapTypes.any fun type => o.get .type = .str type) ||
    nonInstallableIDs.any fun id => o.get .id = .str id

/-- The snaps that are shown as cards. -/
def installedSnaps (collection : List (Obj Attr JSValue)) : List (Obj Attr JSValue) :=
  collection.filter fun snap => !isSystem snap

/-- The snaps that are shown in the table of the system. -/
def systemSnaps (collection : List (Obj Attr JSValue)) : List (Obj Attr JSValue) :=
  collection.filter isSystem

/-- A card. -/
structure Card where
  id : JSValue
  name : JSValue
  author : JSValue := .undefined
  type : JSValue := .undefined
  action : JSValue
  actions : List JSValue := []
  image : JSValue
  installProgress : JSValue := .undefined
  snap : Obj Attr JSValue := Obj.empty
  iconUrl : JSValue

/-- `snapToCard`. -/
def snapToCard (snap : Obj Attr JSValue) : Card where
  id := snap.get .id
  name := snap.get .name
  author := snap.get .developer
  type := if snap.get .type = .str "app" then .str "" else snap.get .type
  action :=
    if snap.get .status = InstallState.installing.value ∨
        snap.get .status = InstallState.removing.value then snap.get .installActionString
    else .str ""
  actions := [snap.get .installActionString]
  image := snap.get .id
  installProgress :=
    if snap.get .status = InstallState.installing.value then snap.get .downloadProgress
    else .num (.int (-1))
  snap := snap
  iconUrl := snap.get .icon

/-- The card that leads to the store. -/
def addCard : Card where
  id := .str "add"
  name := .str "Get more apps"
  action := .str "Store"
  image := .str "add-snap"
  iconUrl := .str "/public/images/add-snap.png"

/-- The cards. -/
def cards (collection : List (Obj Attr JSValue)) : List Card :=
  (installedSnaps collection).map snapToCard ++ [addCard]

/-- The page shows the snap with the status: on a card, or in the table of the system. -/
def Shows (collection : List (Obj Attr JSValue)) (name status : String) : Prop :=
  (∃ card ∈ cards collection, card.snap.get .id = .str name ∧ card.snap.get .status = .str status) ∨
    ∃ snap ∈ systemSnaps collection, snap.get .id = .str name ∧ snap.get .status = .str status

/-- Cards and table divide the snaps. -/
lemma perm_snaps (collection : List (Obj Attr JSValue)) :
    (installedSnaps collection ++ systemSnaps collection).Perm collection := by
  refine List.perm_append_comm.trans ?_
  exact List.filter_append_perm isSystem collection

lemma shows_iff {collection : List (Obj Attr JSValue)} {name status : String} :
    Shows collection name status ↔
      ∃ snap ∈ collection, snap.get .id = .str name ∧ snap.get .status = .str status := by
  have hadd : ¬ (addCard.snap.get .id = .str name ∧ addCard.snap.get .status = .str status) := by
    rintro ⟨hid, -⟩
    cases hid
  simp only [Shows, cards, List.mem_append, List.mem_map, List.mem_singleton, or_and_right, exists_or,
    exists_eq_left, hadd, or_false, exists_exists_and_eq_and]
  rw [← exists_or]
  simp only [← or_and_right, snapToCard, ← (perm_snaps collection).mem_iff, List.mem_append]

/-! ## What stands for a snap -/

section
variable {lib : Libraries}

/-- Both lists are asked for a key, the tracked one first. -/
lemma find_home (trackedSnapList installedSnapList : List SnapModel) (k : JSValue) :
    (home trackedSnapList installedSnapList).find? (fun o => o.get .id = k)
      = (((trackedSnapList.filter isInstalling).find? fun m => idOf m = k).or
          (installedSnapList.find? fun m => idOf m = k)).map (·.attributes) := by
  have hattributes : ∀ l : List SnapModel, (l.map (·.attributes)).find? (fun o => o.get .id = k)
      = (l.find? fun m => idOf m = k).map (·.attributes) := by
    intro l
    rw [List.find?_map]
    rfl
  have hconstruct : ∀ o : Obj Attr JSValue,
      idOf (SnapModel.construct ⟨Obj.empty, Obj.empty⟩ o) = o.get .id := by
    intro o
    rw [idOf, SnapModel.get_construct]
    show ((o .id).or none).getD _ = (o .id).getD _
    cases o .id <;> rfl
  set tracked := (trackedSnapList.filter isInstalling).find? fun m => idOf m = k with htracked
  have hfirst : (Collection.add idOf [] (trackedSnapList.filter isInstalling)).find?
      (fun m => idOf m = k) = tracked := by
    rw [Collection.find_add, List.find?_nil, Option.none_or]
  rw [home, Collection.find_add, List.find?_nil, Option.none_or, List.find?_append, hattributes,
    hattributes, hfirst, Collection.find_add]
  cases htr : tracked with
  | some m => rfl
  | none =>
      -- a model that is made of a tracked one has its key
      have hnone : (((Collection.add idOf [] (trackedSnapList.filter isInstalling)).map
          (·.attributes)).map (SnapModel.construct ⟨Obj.empty, Obj.empty⟩)).find?
            (fun m => idOf m = k) = none := by
        rw [List.find?_eq_none]
        intro m hm
        obtain ⟨o, ho, rfl⟩ := List.mem_map.mp hm
        obtain ⟨m', hm', rfl⟩ := List.mem_map.mp ho
        rw [htr] at hfirst
        rw [hconstruct]
        exact List.find?_eq_none.mp hfirst m' hm'
      rw [hnone, Option.or_none]
      rfl

/-- Every key is there once. -/
lemma nodup_home (trackedSnapList installedSnapList : List SnapModel) :
    ((home trackedSnapList installedSnapList).map (·.get .id)).Nodup :=
  Collection.nodup_add (by simp) _

end

/-! ## What has been told -/

/-- What has been told of the snaps of the two lists. -/
structure Told where
  tracked : Option (List (String × Seen))
  installed : Option (List (String × Seen))

/-- What has been told, after an event. -/
def Told.after (told : Told) : HomeEvent → Told
  | .tracked e => { told with tracked := e.tell trackedForm told.tracked }
  | .installed e => { told with installed := e.tell installedForm told.installed }

/-- What events have told. -/
def toldBy (es : List HomeEvent) : Told := es.foldl Told.after ⟨none, none⟩

/-- The lists are as they have been told. -/
structure Home.Follows (s : Home) (told : Told) : Prop where
  tracked : s.trackedSnapList.Follows told.tracked
  installed : s.installedSnapList.Follows told.installed

lemma Home.Follows.next {lib : Libraries} {s s' : Home} {told : Told} (h : s.Follows told)
    {e : HomeEvent} (he : ∀ c ∈ e.client, c.Documented) (hnext : s.next lib e = some s') :
    s'.Follows (told.after e) := by
  cases e with
  | tracked e =>
      obtain ⟨l, hl, rfl⟩ := Option.map_eq_some_iff.mp hnext
      exact ⟨h.tracked.next e he hl, h.installed⟩
  | installed e =>
      obtain ⟨l, hl, rfl⟩ := Option.map_eq_some_iff.mp hnext
      exact ⟨h.tracked, h.installed.next e he hl⟩

/-- After any run the lists are as they have been told. -/
lemma run_follows (lib : Libraries) {es : List HomeEvent}
    (hes : ∀ e ∈ es, ∀ c ∈ e.client, c.Documented) {s : Home}
    (hs : (Home.machine lib).exec .start es = some s) : s.Follows (toldBy es) := by
  have hstart : Home.start.Follows ⟨none, none⟩ := ⟨trivial, trivial⟩
  refine Machine.exec_simulates ?_ hstart hes hs
  exact fun s told e s' h he hnext => h.next he hnext

/-- The snap has been told to have the status. -/
def Tells (told : Option (List (String × Seen))) (name status : String) : Prop :=
  ∃ entries ∈ told, ∃ seen, (name, seen) ∈ entries ∧ seen.status = status

/-- The ids of the models of a list are the names that have been told. -/
lemma ids_of_knows {models : List PolledSnap} {entries : List (String × Seen)}
    (h : List.Forall₂ Knows models entries) :
    (models.map (·.model)).map idOf = (entries.map (·.1)).map .str := by
  rw [List.map_map, List.map_map, ← List.forall₂_eq_eq_eq, List.forall₂_map_left_iff,
    List.forall₂_map_right_iff]
  exact h.imp fun _ _ hknows => hknows.id

lemma nodup_ids_of_knows {models : List PolledSnap} {entries : List (String × Seen)}
    (h : List.Forall₂ Knows models entries) (hnodup : (entries.map (·.1)).Nodup) :
    ((models.map (·.model)).map idOf).Nodup := by
  rw [ids_of_knows h]
  exact hnodup.map fun _ _ heq => JSValue.str.inj heq

/-- What has been told of a snap is what its model has. -/
lemma tells_iff {models : List PolledSnap} {entries : List (String × Seen)}
    (h : List.Forall₂ Knows models entries) (name status : String) :
    Tells (some entries) name status ↔
      ∃ m ∈ models.map (·.model), idOf m = .str name ∧ m.attributes.get .status = .str status := by
  obtain ⟨hmodels, hentries⟩ := forall₂_mem h
  constructor
  · rintro ⟨_, ⟨⟩, seen, hmem, rfl⟩
    obtain ⟨s, hs, hknows⟩ := hentries _ hmem
    exact ⟨s.model, List.mem_map_of_mem hs, hknows.id, hknows.status⟩
  · rintro ⟨m, hm, hid, hstatus⟩
    obtain ⟨s, hs, rfl⟩ := List.mem_map.mp hm
    obtain ⟨⟨name', seen⟩, hmem, hknows⟩ := hmodels s hs
    obtain rfl : name' = name := JSValue.str.inj (hknows.id.symm.trans hid)
    exact ⟨entries, rfl, seen, hmem, JSValue.str.inj (hknows.status.symm.trans hstatus)⟩

/-! ## The page -/

/-- What the page shows of two lists that have come. -/
lemma home_shows_of_knows {tracked installed : List PolledSnap}
    {trackedTold installedTold : List (String × Seen)}
    (htracked : List.Forall₂ Knows tracked trackedTold)
    (hinstalled : List.Forall₂ Knows installed installedTold)
    (hnodup : (trackedTold.map (·.1)).Nodup) (hnodup' : (installedTold.map (·.1)).Nodup)
    (name status : String) :
    Shows (home (tracked.map (·.model)) (installed.map (·.model))) name status ↔
      (Tells (some trackedTold) name "installing" ∧ status = "installing") ∨
        (¬ Tells (some trackedTold) name "installing" ∧ Tells (some installedTold) name status) := by
  have hkeys := nodup_ids_of_knows htracked hnodup
  have hkeys' := nodup_ids_of_knows hinstalled hnodup'
  rw [shows_iff, Collection.exists_mem_iff_find (nodup_home _ _), find_home, tells_iff htracked,
    tells_iff hinstalled, Collection.exists_mem_iff_find hkeys']
  have hinstalling : (∃ m ∈ tracked.map (·.model),
        idOf m = .str name ∧ m.attributes.get .status = .str "installing") ↔
      ∃ m, ((tracked.map (·.model)).filter isInstalling).find? (fun m => idOf m = .str name)
        = some m := by
    have hfilter : (((tracked.map (·.model)).filter isInstalling).map idOf).Nodup :=
      hkeys.sublist (List.filter_sublist.map _)
    have hfind := Collection.exists_mem_iff_find hfilter (.str name) fun _ => True
    simp only [and_true] at hfind
    rw [← hfind]
    simp only [List.mem_filter, isInstalling, decide_eq_true_eq, and_assoc]
    refine exists_congr fun m => and_congr_right fun _ => ?_
    exact and_comm
  rw [hinstalling]
  cases hfound : ((tracked.map (·.model)).filter isInstalling).find? fun m => idOf m = .str name with
  | some m =>
      have hstatus : m.attributes.get .status = .str "installing" := by
        have hstate := (List.mem_filter.mp (List.mem_of_find?_eq_some hfound)).2
        rwa [isInstalling, decide_eq_true_eq] at hstate
      simp [hstatus, eq_comm]
  | none => simp

/-- **What the home page shows.**  After any run of the two requests and of polls, there is a page if
both requests have succeeded.  Then every snap is there once, on a card or in the table of the system;
and it is there with a status exactly if it has been told of the tracked snaps that it is being
installed, and that is the status, or it has not, but it has been told of the installed snaps with that
status. -/
theorem home_shows_iff (lib : Libraries) {es : List HomeEvent}
    (hes : ∀ e ∈ es, ∀ c ∈ e.client, c.Documented) {s : Home}
    (hs : (Home.machine lib).exec .start es = some s) :
    (s.page.isSome = true ↔ (toldBy es).tracked.isSome = true ∧ (toldBy es).installed.isSome = true) ∧
      ∀ page ∈ s.page, ((installedSnaps page ++ systemSnaps page).map (·.get .id)).Nodup ∧
        ∀ name status : String, Shows page name status ↔
          (Tells (toldBy es).tracked name "installing" ∧ status = "installing") ∨
            (¬ Tells (toldBy es).tracked name "installing" ∧
              Tells (toldBy es).installed name status) := by
  obtain ⟨htracked, hinstalled⟩ := run_follows lib hes hs
  rcases htracked.models with ⟨hnone, htold⟩ | ⟨tracked, entries, hsome, htold, hknows, hnodup⟩
  · simp [Home.page, hnone, htold]
  · rcases hinstalled.models with ⟨hnone, htold'⟩ |
      ⟨installed, entries', hsome', htold', hknows', hnodup'⟩
    · simp [Home.page, hnone, htold']
    · have hpage : s.page = some (home (tracked.map (·.model)) (installed.map (·.model))) := by
        rw [Home.page, hsome, hsome']
        rfl
      rw [hpage, htold, htold']
      refine ⟨by simp, ?_⟩
      rintro _ ⟨⟩
      refine ⟨((perm_snaps _).map _).nodup_iff.mpr (nodup_home _ _), fun name status => ?_⟩
      exact home_shows_of_knows hknows hknows' hnodup hnodup' name status

/-! ## An installation that ends in between -/

lemma trackedNames_installingServer : trackedNames installingServer = ["hello-world"] := by
  have hkeys : installingServer.stateTracker.states.keys = {"hello-world"} := rfl
  rw [trackedNames, hkeys]
  exact Finset.sort_singleton _ _

/-- The list of the tracked snaps comes first, and its model is polled before the other list comes. -/
def polledBetween : List HomeEvent :=
  [.tracked (.answer installingSurroundings installingServer), .tracked (.poll "hello-world" .fire),
    .tracked (.poll "hello-world" (.answer 0 installedSurroundings installingServer)),
    .installed (.answer installedSurroundings (Server.start "" ∅))]

lemma records_installingServer (query : String) (isPrivate : Bool) (sectionName : String) :
    snapRecords installingSurroundings installingServer (snapCondition trackedForm) query isPrivate
      sectionName = .ok [some (helloWorld "available")] := by
  have hform : snapCondition trackedForm = .trackedSnaps := by decide
  rw [hform]
  show Except.ok (trackedRecords installingSurroundings.client (trackedNames installingServer)) = _
  rw [trackedNames_installingServer]
  rfl

lemma toldBy_polledBetween : toldBy polledBetween =
    ⟨some [("hello-world", ⟨"active", "installing"⟩)],
      some [("core", .first "active"), ("hello-world", .first "active")]⟩ := by
  have hlisting : listing trackedForm installingSurroundings installingServer
      = some [("hello-world", .first "installing")] := by
    rw [listing, records_installingServer]
    rfl
  rw [toldBy, polledBetween, List.foldl_cons, Told.after, ListEvent.tell, hlisting]
  rfl

lemma polledBetween_runs :
    ((Home.machine plainLibraries).exec .start polledBetween).isSome = true := by
  have hanswered : (getAll trackedForm installingSurroundings installingServer).response
      = some { code := 200, body := .snaps [installing ""] } := by
    rw [getAll, allPackages, records_installingServer]
    rfl
  have hfirst : (Home.machine plainLibraries).next .start
      (.tracked (.answer installingSurroundings installingServer))
        = some ⟨.listed [.listed (SnapModel.added plainLibraries (installing "").encode)],
            .awaited⟩ := by
    show some (Home.mk (PolledList.answered plainLibraries
      (getAll trackedForm installingSurroundings installingServer).response) .awaited) = _
    rw [hanswered]
    rfl
  rw [polledBetween, Machine.exec, hfirst, Option.bind_some]
  decide +kernel

/-- The page shows what the poll has told, and the system's snap. -/
theorem polled_shown : ∃ s page, (Home.machine plainLibraries).exec .start polledBetween = some s ∧
    s.page = some page ∧ Shows page "hello-world" "active" ∧ ¬ Shows page "hello-world" "installing" ∧
      Shows page "core" "active" := by
  obtain ⟨s, hs⟩ := Option.isSome_iff_exists.mp polledBetween_runs
  have hes : ∀ e ∈ polledBetween, ∀ c ∈ e.client, c.Documented := by
    intro e he c hc
    simp only [polledBetween, List.mem_cons, List.not_mem_nil, or_false] at he
    rcases he with rfl | rfl | rfl | rfl <;> cases hc
    · exact documented_installing
    · exact documented_installed
    · exact documented_installed
  obtain ⟨hpage, hshows⟩ := home_shows_iff plainLibraries hes hs
  rw [toldBy_polledBetween] at hpage hshows
  obtain ⟨page, hpage⟩ := Option.isSome_iff_exists.mp (hpage.mpr (by simp))
  obtain ⟨-, hshows⟩ := hshows page hpage
  refine ⟨s, page, hs, hpage, ?_, ?_, ?_⟩
  · rw [hshows]
    simp [Tells, Seen.first]
  · rw [hshows]
    simp [Tells, Seen.first]
  · rw [hshows]
    simp [Tells, Seen.first]

end Client

end Snapweb
