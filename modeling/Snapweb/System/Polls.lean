import Snapweb.System.Listings
import Snapweb.System.Page

/-!
# Lists that are polled

A list of snaps from its request on.  As soon as it has come, its models refresh themselves: one that
is in transition is fetched at the end of a timer, and what the server answers, as it is then, is set.
So what a page makes of a list depends on the polls that were answered before.

* `Seen.after` — what a poll tells of a snap.
* `Knows.next` — a model is as it has been told.
* `PolledList.Follows.next` — so are the models of a list, in their order.
-/

namespace Snapweb

namespace Client

open Backbone

/-! ## Polls -/

/-- What happens to a model of a list: its timer ends, a fetch of it is answered, by the server as it
is then, or a fetch gets lost. -/
inductive Poll
  | fire
  | answer (i : ℕ) (env : Surroundings) (sv : Server)
  | lose (i : ℕ)

/-- The event, for the model with the id. -/
def Poll.event (id : String) : Poll → PollEvent
  | fire => .fire
  | answer i env sv => answerEvent i (get id env sv).response
  | lose i => .fail i false none

/-- What an error tells: what was told before is taken back, unless a snap that was being uninstalled
has not been found. -/
def Seen.fail (seen : Seen) (notFound : Bool) : Seen :=
  if notFound && seen.status = InstallState.removing.text then seen else ⟨seen.before, seen.status⟩

/-- What a poll of the snap tells. -/
def Seen.after (name : String) (seen : Seen) : Poll → Seen
  | .fire => seen
  | .answer _ env sv =>
      match getSnap env.client name with
      | .ok (some snap) => ⟨(sv.stateTracker.state (some env.client) snap).1.status.text, seen.status⟩
      | .ok none => seen.fail false
      | .error _ => seen.fail true
  | .lose _ => seen.fail false

/-! ## A model -/

/-- The model of a list, when it has been added. -/
def PolledSnap.listed (m : SnapModel) : PolledSnap :=
  PolledSnap.synced { model := m, requests := [], timers := 0, gone := false }

/-- The model is that of the snap, and as it has been told. -/
structure Knows (s : PolledSnap) (told : String × Seen) : Prop where
  id : idOf s.model = .str told.1
  status : s.status = .str told.2.status
  previousId : s.model.previous.get .id = .str told.1
  previousStatus : s.model.previous.get .status = .str told.2.before
  fetches : ∀ r ∈ s.requests, r = .fetch

variable {lib : Libraries} {s s' : PolledSnap} {told : String × Seen}

lemma Knows.synced (h : Knows s told) : Knows s.synced told := by
  rw [PolledSnap.synced]
  split_ifs
  · exact ⟨h.id, h.status, h.previousId, h.previousStatus, h.fetches⟩
  · exact h

/-- A model is at first as its payload tells. -/
lemma knows_listed (lib : Libraries) (pkg : SnapPkg) :
    Knows (.listed (SnapModel.added lib pkg.encode)) (pkg.id, .first pkg.state.status) := by
  obtain ⟨hid, hstatus⟩ := get_added_payload lib pkg
  refine Knows.synced ⟨hid, hstatus, ?_, ?_, by simp⟩
  · exact (SnapModel.previous_added (by decide) _).trans hid
  · exact (SnapModel.previous_added (by decide) _).trans hstatus

/-- A payload is set, and what was there before it is kept. -/
lemma Knows.payload (h : Knows s told) {i : ℕ} {pkg : SnapPkg} (hpkg : pkg.id = told.1)
    (hnext : s.next lib (.payload i pkg) = some s') :
    Knows s' (told.1, ⟨pkg.state.status, told.2.status⟩) := by
  rw [PolledSnap.next] at hnext
  split at hnext
  · cases hnext
    refine Knows.synced ⟨?_, ?_, ?_, ?_, ?_⟩
    · show idOf (s.model.receive lib pkg.encode) = .str told.1
      rw [idOf, SnapModel.get_receive (by decide), ← hpkg]
      rfl
    · show (s.model.receive lib pkg.encode).attributes.get .status = .str pkg.state.status
      rw [SnapModel.get_receive (by decide)]
      rfl
    · exact (SnapModel.previous_receive (by decide) _).trans h.id
    · exact (SnapModel.previous_receive (by decide) _).trans h.status
    · intro r hr
      obtain ⟨kept, hkept, rfl⟩ := List.mem_map.mp hr
      rw [h.fetches kept (List.mem_of_mem_eraseIdx hkept)]
      rfl
  · cases hnext

/-- An error sets what was there before, unless the snap is gone. -/
lemma Knows.fail (h : Knows s told) {i : ℕ} {notFound : Bool} {message : Option String}
    (hnext : s.next lib (.fail i notFound message) = some s') :
    Knows s' (told.1, told.2.fail notFound) := by
  have hgone : s.model.isGone notFound
      = (notFound && decide (told.2.status = InstallState.removing.text)) := by
    have hstatus : s.model.attributes.get .status = .str told.2.status := h.status
    rw [SnapModel.isGone, hstatus, InstallState.value]
    simp
  have hprevious : ∀ {k : Attr} {v : String}, s.model.previous.get k = .str v →
      s.model.previous k = some (.str v) := fun hk => Obj.eq_some_of_get hk nofun
  have hfetches : ∀ r ∈ s.requests.eraseIdx i, r = .fetch :=
    fun r hr => h.fetches r (List.mem_of_mem_eraseIdx hr)
  rw [PolledSnap.next] at hnext
  split at hnext
  · cases hnext
    rw [Seen.fail, ← hgone]
    by_cases hfound : s.model.isGone notFound = true
    · rw [if_pos hfound, PolledSnap.finish, SnapModel.onError_of_gone hfound]
      exact ⟨h.id, h.status, h.previousId, h.previousStatus, hfetches⟩
    · have hset : s.model.onError lib notFound message
          = s.model.set (handlers lib) (s.model.rollback message) := if_neg hfound
      rw [if_neg hfound, PolledSnap.finish]
      refine ⟨?_, ?_, ?_, ?_, hfetches⟩
      · show idOf (s.model.onError lib notFound message) = .str told.1
        rw [idOf, SnapModel.get_onError (by decide) (by decide), if_neg hfound,
          hprevious h.previousId]
        rfl
      · show (s.model.onError lib notFound message).attributes.get .status = .str told.2.before
        rw [SnapModel.get_onError (by decide) (by decide), if_neg hfound,
          hprevious h.previousStatus]
        rfl
      · rw [hset]
        exact h.id
      · rw [hset]
        exact h.status
  · cases hnext

/-- A poll.  Snapd's record of the name has this name. -/
lemma Knows.next (h : Knows s told) (p : Poll)
    (hp : ∀ i env sv, p = .answer i env sv → env.client.Documented)
    (hnext : s.next lib (p.event told.1) = some s') : Knows s' (told.1, told.2.after told.1 p) := by
  cases p with
  | fire =>
      rw [Poll.event, PolledSnap.next] at hnext
      split_ifs at hnext
      cases hnext
      refine ⟨h.id, h.status, h.previousId, h.previousStatus, fun r hr => ?_⟩
      rcases List.mem_append.mp hr with hr | hr
      · exact h.fetches r hr
      · exact List.mem_singleton.mp hr
  | lose i => exact h.fail hnext
  | answer i env sv =>
      have hdoc := hp i env sv rfl
      rw [Poll.event, get, packagePayload] at hnext
      rw [Seen.after]
      rcases hsnap : getSnap env.client told.1 with err | - | snap
      · simp only [hsnap] at hnext
        exact h.fail hnext
      · simp only [hsnap] at hnext
        exact h.fail hnext
      · simp only [hsnap] at hnext
        have hdescribes : Describes env sv snap (snapToPayload env sv snap).1 :=
          describes_snapToPayload rfl
        have hpayload := h.payload (hdescribes.1.trans (hdoc.named _ _ hsnap)) hnext
        rwa [hdescribes.2] at hpayload

/-! ## A list -/

/-- A list: its request is on its way, or has failed, or its models are there. -/
inductive PolledList
  | awaited
  | failed
  | listed (models : List PolledSnap)

/-- What happens to a list: the server answers its request, or a model is polled. -/
inductive ListEvent
  | answer (env : Surroundings) (sv : Server)
  | poll (id : String) (p : Poll)

/-- The snapd that answers. -/
def ListEvent.client : ListEvent → Option SnapdClient
  | answer env _ => some env.client
  | poll _ (.answer _ env _) => some env.client
  | poll _ _ => none

namespace PolledList

/-- The models, once they are there. -/
def models : PolledList → Option (List SnapModel)
  | listed models => some (models.map (·.model))
  | _ => none

/-- The list, when its request has been answered. -/
def answered (lib : Libraries) : Option Response → PolledList
  | some { code := 200, body := .snaps pkgs } => .listed ((fetchList lib pkgs).map .listed)
  | _ => .failed

/-- One event of a list that is asked for with a form. -/
def next (lib : Libraries) (form : String → String) : PolledList → ListEvent → Option PolledList
  | awaited, .answer env sv => some (answered lib (getAll form env sv).response)
  | listed models, .poll id p =>
      match models.find? fun s => idOf s.model = .str id with
      | none => none
      | some s => (s.next lib (p.event id)).map fun s' =>
          .listed (models.map fun other => if idOf other.model = .str id then s' else other)
  | _, _ => none

end PolledList

/-- What has been told of the snaps of a list, after an event; `none` as long as the list has not
come. -/
def ListEvent.tell (form : String → String) (told : Option (List (String × Seen))) :
    ListEvent → Option (List (String × Seen))
  | .answer env sv => listing form env sv
  | .poll id p => told.map fun told => told.map fun entry =>
      if entry.1 = id then (id, entry.2.after id p) else entry

/-- The list is as it has been told: there is a model for each snap, in their order, and each of them
is as it has been told. -/
def PolledList.Follows : PolledList → Option (List (String × Seen)) → Prop
  | awaited, none | failed, none => True
  | listed models, some told => List.Forall₂ Knows models told ∧ (told.map (·.1)).Nodup
  | _, _ => False

variable {form : String → String}

/-- A list has come exactly if something has been told of it. -/
lemma PolledList.Follows.models {l : PolledList} {told : Option (List (String × Seen))}
    (h : l.Follows told) : l.models = none ∧ told = none ∨
      ∃ models entries, l.models = some (models.map (·.model)) ∧ told = some entries ∧
        List.Forall₂ Knows models entries ∧ (entries.map (·.1)).Nodup := by
  cases l with
  | listed models =>
      cases told with
      | none => exact h.elim
      | some entries => exact .inr ⟨models, entries, rfl, rfl, h.1, h.2⟩
  | awaited | failed =>
      cases told with
      | none => exact .inl ⟨rfl, rfl⟩
      | some entries => exact h.elim

/-- The answer to the request. -/
lemma PolledList.follows_answered (lib : Libraries) (form : String → String) {env : Surroundings}
    (hc : env.client.Documented) (sv : Server) :
    (answered lib (getAll form env sv).response).Follows (listing form env sv) := by
  rcases hlisting : listing form env sv with - | told
  · have hfailed : answered lib (getAll form env sv).response = .failed := by
      unfold answered
      split
      · next heq => exact absurd heq (response_of_listing_none hlisting _)
      · rfl
    rw [hfailed]
    trivial
  · obtain ⟨pkgs, hresponse, rfl⟩ := response_of_listing hc hlisting
    have hnodup := nodup_listing hc hlisting
    have hids : (pkgs.map (·.id)).Nodup := by
      rwa [List.map_map] at hnodup
    rw [hresponse]
    refine ⟨?_, hnodup⟩
    rw [fetchList_of_nodup hids, List.map_map, List.forall₂_map_left_iff,
      List.forall₂_map_right_iff, List.forall₂_same]
    exact fun pkg _ => knows_listed lib pkg

/-- The models are changed, and what has been told of their snaps. -/
lemma PolledList.Follows.map {models : List PolledSnap} {told : List (String × Seen)}
    (h : (listed models).Follows (some told)) {f : PolledSnap → PolledSnap}
    {g : String × Seen → String × Seen} (hname : ∀ entry, (g entry).1 = entry.1)
    (hchange : ∀ s, ∀ entry ∈ told, Knows s entry → Knows (f s) (g entry)) :
    (listed (models.map f)).Follows (some (told.map g)) := by
  obtain ⟨hknows, hnodup⟩ := h
  refine ⟨?_, ?_⟩
  · rw [List.forall₂_map_left_iff, List.forall₂_map_right_iff]
    have hmem := ((List.forall₂_and_left told models).mpr ⟨fun _ h => h, hknows.flip⟩).flip
    exact hmem.imp fun s entry h => hchange s entry h.1 h.2
  · have hnames : (told.map g).map (·.1) = told.map (·.1) := by
      rw [List.map_map]
      exact List.map_congr_left fun entry _ => hname entry
    rw [hnames]
    exact hnodup

/-- A poll of one model. -/
lemma PolledList.Follows.poll {models : List PolledSnap} {told : List (String × Seen)}
    (h : (listed models).Follows (some told)) {id : String} {p : Poll}
    (hp : ∀ i env sv, p = .answer i env sv → env.client.Documented) {s s' : PolledSnap}
    (hs : s ∈ models) (hid : idOf s.model = .str id) (hnext : s.next lib (p.event id) = some s') :
    (listed (models.map fun other => if idOf other.model = .str id then s' else other)).Follows
      (some (told.map fun entry => if entry.1 = id then (id, entry.2.after id p) else entry)) := by
  refine h.map (fun entry => ?_) fun other entry hentry hother => ?_
  · split_ifs with heq
    · exact heq.symm
    · rfl
  · have hsame : idOf other.model = .str id ↔ entry.1 = id := by
      rw [hother.id, JSValue.str.injEq]
    by_cases heq : entry.1 = id
    · rw [if_pos heq, if_pos (hsame.mpr heq)]
      -- the model that is polled is that of this snap
      obtain ⟨polled, hpolled, hs⟩ := (forall₂_mem h.1).1 s hs
      have hname : polled.1 = entry.1 := (JSValue.str.inj (hs.id.symm.trans hid)).trans heq.symm
      obtain rfl := List.inj_on_of_nodup_map h.2 hpolled hentry hname
      subst heq
      exact hs.next p hp hnext
    · rw [if_neg heq, if_neg (mt hsame.mp heq)]
      exact hother

/-- **A list is as it has been told**, event after event. -/
theorem PolledList.Follows.next {l l' : PolledList} {told : Option (List (String × Seen))}
    (h : l.Follows told) (e : ListEvent) (he : ∀ c ∈ e.client, c.Documented)
    (hnext : l.next lib form e = some l') : l'.Follows (e.tell form told) := by
  cases l with
  | awaited =>
      cases e with
      | answer env sv =>
          cases hnext
          exact follows_answered lib form (he env.client rfl) sv
      | poll id p => cases hnext
  | failed => cases hnext
  | listed models =>
      cases told with
      | none => exact h.elim
      | some told =>
          cases e with
          | answer env sv => cases hnext
          | poll id p =>
              rw [PolledList.next] at hnext
              split at hnext
              · cases hnext
              · next s hfound =>
                  obtain ⟨s', hs', rfl⟩ := Option.map_eq_some_iff.mp hnext
                  have hid : idOf s.model = .str id := by simpa using List.find?_some hfound
                  have hp : ∀ i env sv, p = .answer i env sv → env.client.Documented :=
                    fun i env sv hp => he env.client (by rw [hp]; rfl)
                  exact h.poll hp (List.mem_of_find?_eq_some hfound) hid hs'

/-! ## An installation -/

/-- A snapd that has snaps installed, and `hello-world` in its store. -/
def snapdHaving (snaps : List Snap) : SnapdClient :=
  { SnapdClient.knowing (helloWorld "available") "1" with
    snap := fun name =>
      match snaps.find? fun snap => snap.name = name with
      | some snap => .ok (some snap)
      | none => .error "not installed"
    findOne := fun name =>
      if name = "hello-world" then .ok (some (helloWorld "available")) else .error "not found"
    list := .ok snaps }

lemma documented_snapdHaving {snaps : List Snap} (h : (snaps.map (·.name)).Nodup) :
    (snapdHaving snaps).Documented := by
  constructor
  · intro name snap hsnap
    simp only [getSnap, snapdHaving] at hsnap
    cases hfound : snaps.find? fun snap => snap.name = name with
    | some found =>
        simp only [hfound, Except.ok.injEq, Option.some.injEq] at hsnap
        rw [← hsnap]
        simpa using List.find?_some hfound
    | none =>
        by_cases hname : name = "hello-world"
        · subst hname
          simp only [hfound, if_true, Except.ok.injEq, Option.some.injEq] at hsnap
          rw [← hsnap]
          rfl
        · simp [hfound, hname] at hsnap
  · rintro _ (⟨⟨⟩⟩ | ⟨options, ⟨⟩⟩)
    · exact h
    · simp

def coreSnap : Snap := { name := "core", status := "active", type := "os" }

/-- While `hello-world` is being installed, and after that. -/
def installingSurroundings : Surroundings :=
  { Surroundings.knowing (helloWorld "available") with client := snapdHaving [coreSnap] }

def installedSurroundings : Surroundings :=
  { installingSurroundings with client := snapdHaving [coreSnap, helloWorld "active"] }

lemma documented_installing : installingSurroundings.client.Documented :=
  documented_snapdHaving (by simp)

lemma documented_installed : installedSurroundings.client.Documented :=
  documented_snapdHaving (by decide)

/-- A server that has `hello-world` installed. -/
def installingServer : Server :=
  { Server.start "" ∅ with
    stateTracker := StateTracker.new.trackInstall "1" (helloWorld "available") }

end Client

end Snapweb
