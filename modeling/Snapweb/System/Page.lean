import Snapweb.Client.Polling
import Snapweb.Client.Requests

/-!
# A snap on a page, and the server

All the way around: the user clicks, the browser sends requests, the server serves them and calls
snapd, and the answers come back and are set.  Requests and answers travel in any order; they may get
lost on either way, and a request that the page has given up may still get to the server.  Whatever
else happens to the server (other pages, expiring entries, changes in snapd) is any change of it.

* `Page.next` — one event.
* `calls_le_clicks` — what the server changes in snapd for the page has been clicked, once for each
  call, and is about the page's snap; what is aborted is the change that is tracked for it.
-/

namespace Snapweb

namespace Client

/-! ## Requests and answers -/

/-- Where a request is: on its way to the server, or its answer is on its way back. -/
inductive Stage
  | asked (req : Snapweb.Request)
  | answered (response : Option Response)

/-- `JSON.parse(responseText).message`, or the text where it is no JSON. -/
def responseMessage : ResponseBody → Option String
  | .operation message _ => some message
  | .snap _ | .snaps _ => none
  | .empty => some ""
  | .text s =>
      match JSON.parse s.toList with
      | none => some s
      | some (.object ms) =>
          match Members.find "message" (Members.ofPairs ms) with
          | some (.string message) => some message
          | _ => none
      | some _ => none

/-- What the answer to a request is for the model; without a response the connection was dropped. -/
def answerEvent (i : ℕ) : Option Response → PollEvent
  | none => .fail i false none
  | some { code := 200, body := .snap pkg } => .payload i pkg
  | some { code := 202, body := .operation message package } => .accepted i package message
  | some { code, body } => .fail i (code = 404) (responseMessage body)

/-- What `update` makes of the body of a model. -/
def SnapModel.updateBody (m : SnapModel) : UpdateBody :=
  match m.attributes.get .status with
  | .str status => .text status
  | _ => .notText

/-- The request that a call of a click makes, for the model's id. -/
def asks (id : String) : SnapModel × Option Call → Option String → Option Snapweb.Request
  | (_, none), _ => none
  | (_, some .destroy), _ => some (.remove id)
  | (_, some .save), none => some (.add id)
  | (m, some .save), some _ => some (.update id m.updateBody)

/-! ## Clicks and calls -/

/-- What a click asks for: what the button stands for in the model's state. -/
def Click.operation (m : SnapModel) : Click → Option PackageOp
  | install =>
      let status := m.attributes.get .status
      if !(m.attributes.get .isInstallable).truthy then none
      else if status = InstallState.installed.value ∨ status = InstallState.active.value then
        some (.start .uninstall)
      else if status = InstallState.removed.value then some (.start .install)
      else if status = InstallState.installing.value then some .abort
      else none
  | enable =>
      let status := m.attributes.get .status
      if !(m.attributes.get .isInstalled).truthy then none
      else if status = InstallState.installed.value then some (.start .enable)
      else if status = InstallState.active.value then some (.start .disable)
      else none

/-- The operation that a request asks the server for. -/
def operationOf : Snapweb.Request → Option PackageOp
  | .add _ => some (.start .install)
  | .remove _ => some (.start .uninstall)
  | .update _ body => body.operation
  | _ => none

/-- The operation of a call to snapd. -/
def callOperation : SnapdCall → PackageOp
  | .install _ => .start .install
  | .remove _ => .start .uninstall
  | .enable _ => .start .enable
  | .disable _ => .start .disable
  | .abort _ => .abort

/-- The call is about the snap: what is aborted is the change of the operation that is tracked for it,
for the name that snapd's record has, and that this record leaves unfinished. -/
def IsAbout (c : SnapdClient) (t : StateTracker) (name : String) : SnapdCall → Prop
  | .install n | .remove n | .enable n | .disable n => n = name
  | .abort changeID => ∃ snap state, getSnap c name = .ok (some snap) ∧
      t.lookup snap.name = some state ∧ state.changeID = changeID ∧
      hasOperationCompleted state.status snap = false

/-! ## The page -/

/-- A page of a snap: the model with its requests, each of them with where it is; the requests that
the page has given up, and that may still get to the server; and the server.  What the user has asked
for, and the calls to snapd for this page, are kept. -/
structure Page where
  snap : PolledSnap
  stages : List Stage
  strays : List Snapweb.Request
  api : API
  clicked : List PackageOp
  called : List SnapdCall

/-- What happens: a click, the end of a timer, the server serves a request, an answer gets to the
page; a request or its answer is lost to the page, a request that was lost gets to the server all the
same, or does not; and anything else that happens to the server. -/
inductive PageEvent
  | click (c : Click)
  | fire
  | serve (i : ℕ)
  | deliver (i : ℕ)
  | lose (i : ℕ)
  | stray (i : ℕ)
  | vanish (i : ℕ)
  | other (api : API)

namespace Page

/-- The server serves a request of the page. -/
def served (s : Page) (req : Snapweb.Request) : Page :=
  let result := handle s.api.env s.api.server req
  { s with
    api := { s.api with server := result.server }
    called := s.called ++ result.calls }

/-- One event on the page of a snap. -/
def next (lib : Libraries) (id : String) (s : Page) : PageEvent → Option Page
  | .click c =>
      let result := c.handle lib s.snap.model
      some { s with
        snap := s.snap.clicked result
        stages := s.stages ++ ((asks id result (c.callType s.snap.model)).map .asked).toList
        clicked := s.clicked ++ (c.operation s.snap.model).toList }
  | .fire =>
      (s.snap.next lib .fire).map fun snap =>
        { s with snap, stages := s.stages ++ [.asked (.get id)] }
  | .serve i =>
      match s.stages[i]? with
      | some (.asked req) =>
          some { s.served req with
            stages := s.stages.set i
              (.answered (handle s.api.env s.api.server req).response) }
      | _ => none
  | .deliver i =>
      match s.stages[i]? with
      | some (.answered response) =>
          (s.snap.next lib (answerEvent i response)).map fun snap =>
            { s with snap, stages := s.stages.eraseIdx i }
      | _ => none
  | .lose i =>
      match s.stages[i]? with
      | some (.asked req) =>
          (s.snap.next lib (.fail i false none)).map fun snap =>
            { s with snap, stages := s.stages.eraseIdx i, strays := s.strays ++ [req] }
      | some (.answered _) =>
          (s.snap.next lib (.fail i false none)).map fun snap =>
            { s with snap, stages := s.stages.eraseIdx i }
      | none => none
  | .stray i =>
      match s.strays[i]? with
      | some req => some { s.served req with strays := s.strays.eraseIdx i }
      | none => none
  | .vanish i => if i < s.strays.length then some { s with strays := s.strays.eraseIdx i } else none
  | .other api => some { s with api }

/-- The events, as a machine. -/
def machine (lib : Libraries) (id : String) : Machine Page PageEvent := ⟨fun s e => s.next lib id e⟩

end Page

/-- The page of a snap at first. -/
def Origin.page (lib : Libraries) (id : String) (origin : Origin) (api : API) : Page where
  snap := origin.start lib
  stages := (origin.start lib).requests.map fun _ => .asked (.get id)
  strays := []
  api
  clicked := []
  called := []

/-! ## What a request makes the server call -/

/-- A click asks for what it stands for. -/
lemma operation_asks (lib : Libraries) (id : String) (m : SnapModel) (c : Click) :
    (asks id (c.handle lib m) (c.callType m)).bind operationOf = c.operation m := by
  have hstatus : ∀ state : InstallState, (m.setStatus lib state).updateBody = .text state.text := by
    intro state
    have hget : (m.setStatus lib state).attributes.get .status = state.value := by
      rw [SnapModel.get_setStatus (by decide), if_pos rfl]
    rw [SnapModel.updateBody, hget]
    rfl
  cases c with
  | install =>
      simp only [Click.handle, SnapModel.handleInstallEvent, Click.operation]
      split_ifs with hinstallable hinstalled hremoved hinstalling
      · rfl
      · rfl
      · rw [Click.callType, if_neg (by rw [hremoved]; decide)]
        rfl
      · rw [Click.callType, if_pos hinstalling]
        simp only [asks, Option.bind_some, operationOf, hstatus, UpdateBody.operation]
        rfl
      · rfl
  | enable =>
      simp only [Click.handle, SnapModel.handleEnableEvent, Click.operation]
      split_ifs with hinstalled hoff hon
      · rfl
      · simp only [Click.callType, asks, Option.bind_some, operationOf, hstatus, UpdateBody.operation]
        rfl
      · simp only [Click.callType, asks, Option.bind_some, operationOf, hstatus, UpdateBody.operation]
        rfl
      · rfl

/-- What is aborted is the change that is tracked. -/
lemma abort_calls (c : SnapdClient) (name : String) (t : StateTracker) :
    (abortRunningOperation c name t).calls.length ≤ 1 ∧
      ∀ call ∈ (abortRunningOperation c name t).calls,
        callOperation call = .abort ∧ IsAbout c t name call := by
  rw [abortRunningOperation]
  rcases hsnap : getSnap c name with err | _ | snap
  · simp
  · simp
  · rcases htr : t.isTrackedForRunningOperation snap with ⟨_ | _, changeID⟩
    · simp [htr]
    · have habout : IsAbout c t name (.abort changeID) := by
        rw [StateTracker.isTrackedForRunningOperation] at htr
        rcases hlookup : t.lookup snap.name with _ | state
        · rw [hlookup] at htr
          cases htr
        · simp only [hlookup, Prod.mk.injEq, Bool.not_eq_true'] at htr
          exact ⟨snap, state, hsnap, hlookup, htr.2, htr.1⟩
      have hop : callOperation (.abort changeID) = .abort := rfl
      rcases hrefused : c.abort changeID with _ | err <;> simp [htr, hrefused, habout, hop]

/-- An operation makes one call at most, which is its own and about the snap. -/
lemma run_calls (op : PackageOp) (c : SnapdClient) (name : String) (t : StateTracker) :
    (op.run c name t).calls.length ≤ 1 ∧
      ∀ call ∈ (op.run c name t).calls, callOperation call = op ∧ IsAbout c t name call := by
  have hstart : ∀ (call : SnapdCall) start track,
      (startAndTrack call start track c name t).calls.length ≤ 1 ∧
        ∀ call' ∈ (startAndTrack call start track c name t).calls, call' = call := by
    intro call start track
    rw [startAndTrack]
    rcases getSnap c name with err | _ | snap <;> simp
  have hswitch : ∀ required refusal (call : SnapdCall) start track,
      (switchAndTrack required refusal call start track c name t).calls.length ≤ 1 ∧
        ∀ call' ∈ (switchAndTrack required refusal call start track c name t).calls,
          call' = call := by
    intro required refusal call start track
    rw [switchAndTrack]
    rcases getSnap c name with err | _ | snap
    · simp
    · simp
    · by_cases hstatus : snap.status ≠ required.text
      · simp [hstatus]
      · rcases hrefused : start.2 with _ | err <;> simp [hstatus]
  rcases op with (- | - | - | -) | -
  · refine ⟨(hstart _ _ _).1, fun call hcall => ?_⟩
    rw [(hstart _ _ _).2 call hcall]
    exact ⟨rfl, rfl⟩
  · refine ⟨(hstart _ _ _).1, fun call hcall => ?_⟩
    rw [(hstart _ _ _).2 call hcall]
    exact ⟨rfl, rfl⟩
  · refine ⟨(hswitch _ _ _ _ _).1, fun call hcall => ?_⟩
    rw [(hswitch _ _ _ _ _).2 call hcall]
    exact ⟨rfl, rfl⟩
  · refine ⟨(hswitch _ _ _ _ _).1, fun call hcall => ?_⟩
    rw [(hswitch _ _ _ _ _).2 call hcall]
    exact ⟨rfl, rfl⟩
  · exact abort_calls c name t

/-- The snap that a request is about. -/
def requestName : Snapweb.Request → Option String
  | .getAll _ => none
  | .get name | .add name | .remove name | .update name _ => some name

/-- A request makes the server call what it asks for, at most. -/
lemma handle_calls (env : Surroundings) (sv : Server) (req : Snapweb.Request) :
    (handle env sv req).calls.length ≤ 1 ∧
      ∀ call ∈ (handle env sv req).calls, operationOf req = some (callOperation call) ∧
        ∀ name, requestName req = some name → IsAbout env.client sv.stateTracker name call := by
  have hrun : ∀ op name, operationOf req = some op → requestName req = some name →
      (handle env sv req).calls = (op.run env.client name sv.stateTracker).calls →
      (handle env sv req).calls.length ≤ 1 ∧
        ∀ call ∈ (handle env sv req).calls, operationOf req = some (callOperation call) ∧
          ∀ name, requestName req = some name → IsAbout env.client sv.stateTracker name call := by
    intro op name hop hname hcalls
    obtain ⟨hlength, hall⟩ := run_calls op env.client name sv.stateTracker
    rw [hcalls, hop, hname]
    refine ⟨hlength, fun call hcall => ?_⟩
    obtain ⟨rfl, habout⟩ := hall call hcall
    refine ⟨rfl, ?_⟩
    rintro _ ⟨rfl⟩
    exact habout
  have hoperate : ∀ op name,
      (operate op name env sv).calls = (op.run env.client name sv.stateTracker).calls := by
    intro op name
    rcases houtcome : (op.run env.client name sv.stateTracker).outcome with _ | err | _ <;>
      simp [operate, houtcome]
  have hnone : (handle env sv req).calls = [] → (handle env sv req).calls.length ≤ 1 ∧
      ∀ call ∈ (handle env sv req).calls, operationOf req = some (callOperation call) ∧
        ∀ name, requestName req = some name → IsAbout env.client sv.stateTracker name call := by
    intro h
    simp [h]
  cases req with
  | getAll form =>
      refine hnone ?_
      simp only [handle, getAll]
      split <;> rfl
  | get name =>
      refine hnone ?_
      simp only [handle, get]
      split <;> rfl
  | add name => exact hrun _ name rfl rfl (hoperate _ name)
  | remove name => exact hrun _ name rfl rfl (hoperate _ name)
  | update name body =>
      by_cases hempty : name = ""
      · refine hnone ?_
        rw [handle, hempty, update_unnamed]
      · rcases hop : body.operation with _ | op
        · refine hnone ?_
          rw [handle, update_of_no_operation hempty hop]
        · refine hrun op name hop rfl ?_
          rw [handle, update_of_operation hempty hop]

/-! ## Calls and clicks -/

namespace Page

/-- The operation that a request on its way to the server asks for. -/
def askedOperation : Stage → Option PackageOp
  | .asked req => operationOf req
  | .answered _ => none

/-- How often an operation has been asked for: what is called, and what may still be. -/
def asked (s : Page) (op : PackageOp) : ℕ :=
  (s.called.map callOperation).count op + (s.stages.filterMap askedOperation).count op +
    (s.strays.filterMap operationOf).count op

/-- All that may still be called is about the snap, and it has been clicked, as what is called. -/
structure Clicked (id : String) (s : Page) : Prop where
  stages : ∀ req, .asked req ∈ s.stages → requestName req = some id
  strays : ∀ req ∈ s.strays, requestName req = some id
  counted : ∀ op, s.asked op ≤ s.clicked.count op

section
variable {α : Type} (f : α → Option PackageOp) (op : PackageOp) {l : List α} {i : ℕ} {a : α}

/-- An entry that is taken away is no longer counted. -/
lemma count_eraseIdx (h : l[i]? = some a) :
    ((l.eraseIdx i).filterMap f).count op + (f a).toList.count op = (l.filterMap f).count op := by
  obtain ⟨hi, rfl⟩ := List.getElem?_eq_some_iff.mp h
  rw [← ((List.getElem_cons_eraseIdx_perm hi).filterMap f).count_eq op, List.filterMap_cons]
  cases f l[i] <;> simp [List.count_cons]

/-- An entry that is exchanged is counted as the new one. -/
lemma count_set (h : l[i]? = some a) (b : α) :
    ((l.set i b).filterMap f).count op + (f a).toList.count op
      = (l.filterMap f).count op + (f b).toList.count op := by
  obtain ⟨hi, -⟩ := List.getElem?_eq_some_iff.mp h
  have herase := count_eraseIdx f op h
  rw [((List.set_perm_cons_eraseIdx hi b).filterMap f).count_eq op, List.filterMap_cons]
  cases hb : f b <;> simp [List.count_cons] <;> omega

end

variable {lib : Libraries} {id : String} {s s' : Page}

/-- What is called for a request is what it asks for, once at most. -/
lemma count_handle_calls (env : Surroundings) (sv : Server) (req : Snapweb.Request)
    (op : PackageOp) :
    ((handle env sv req).calls.map callOperation).count op ≤ (operationOf req).toList.count op := by
  obtain ⟨hlength, hall⟩ := handle_calls env sv req
  rcases hcalls : (handle env sv req).calls with _ | ⟨call, _ | ⟨call', rest⟩⟩
  · simp
  · have hop := (hall call (by rw [hcalls]; exact List.mem_cons_self)).1
    simp [hop]
  · rw [hcalls] at hlength
    simp at hlength

/-- A request of a click is about the snap. -/
lemma requestName_asks {result : SnapModel × Option Call} {type : Option String}
    {req : Snapweb.Request} (h : asks id result type = some req) : requestName req = some id := by
  obtain ⟨m, call⟩ := result
  rcases call with _ | (_ | _) <;> cases type <;> cases h <;> rfl

/-- A click. -/
lemma Clicked.click (h : s.Clicked id) (c : Click) (hnext : s.next lib id (.click c) = some s') :
    s'.Clicked id := by
  cases hnext
  refine ⟨?_, h.strays, fun op => ?_⟩
  · intro req hreq
    rcases List.mem_append.mp hreq with hreq | hreq
    · exact h.stages req hreq
    · simp only [Option.mem_toList, Option.map_eq_some_iff, Stage.asked.injEq, exists_eq_right] at hreq
      exact requestName_asks hreq
  · have hasked := h.counted op
    have hop := operation_asks lib id s.snap.model c
    simp only [Page.asked, List.filterMap_append, List.count_append, ← hop] at hasked ⊢
    cases hreq : asks id (c.handle lib s.snap.model) (c.callType s.snap.model) with
    | none => simpa using hasked
    | some req =>
        have hone : ([Stage.asked req].filterMap askedOperation) = (operationOf req).toList := by
          rw [List.filterMap_cons, askedOperation]
          cases operationOf req <;> rfl
        simp only [Option.map_some, Option.toList_some, Option.bind_some, hone]
        omega

/-- A request that the server serves, and that is taken from where it was. -/
lemma Clicked.of_served (h : s.Clicked id) {req : Snapweb.Request} {stages : List Stage}
    {strays : List Snapweb.Request}
    (hstages : ∀ req, .asked req ∈ stages → .asked req ∈ s.stages) (hstrays : strays ⊆ s.strays)
    (hcount : ∀ op, (stages.filterMap askedOperation).count op +
        (strays.filterMap operationOf).count op + (operationOf req).toList.count op
      ≤ (s.stages.filterMap askedOperation).count op + (s.strays.filterMap operationOf).count op) :
    ({ s.served req with stages, strays } : Page).Clicked id := by
  refine ⟨fun req hreq => h.stages req (hstages req hreq),
    fun req hreq => h.strays req (hstrays hreq), fun op => ?_⟩
  have hasked := h.counted op
  have hcalled := count_handle_calls s.api.env s.api.server req op
  have hle := hcount op
  simp only [Page.asked, Page.served, List.map_append, List.count_append] at hasked ⊢
  omega

/-- Nothing is served, and nothing is asked for that was not. -/
lemma Clicked.of_kept (h : s.Clicked id) {snap : PolledSnap} {stages : List Stage}
    {strays : List Snapweb.Request} (hstages : ∀ req, .asked req ∈ stages → .asked req ∈ s.stages)
    (hstrays : ∀ req ∈ strays, req ∈ s.strays ∨ .asked req ∈ s.stages)
    (hcount : ∀ op, (stages.filterMap askedOperation).count op +
        (strays.filterMap operationOf).count op
      ≤ (s.stages.filterMap askedOperation).count op + (s.strays.filterMap operationOf).count op) :
    ({ s with snap, stages, strays } : Page).Clicked id := by
  refine ⟨fun req hreq => h.stages req (hstages req hreq), ?_, fun op => ?_⟩
  · intro req hreq
    rcases hstrays req hreq with hreq | hreq
    · exact h.strays req hreq
    · exact h.stages req hreq
  · have hasked := h.counted op
    have hle := hcount op
    simp only [Page.asked] at hasked ⊢
    omega

/-- One event. -/
lemma Clicked.next (h : s.Clicked id) {e : PageEvent} (hnext : s.next lib id e = some s') :
    s'.Clicked id := by
  cases e with
  | click c => exact h.click c hnext
  | fire =>
      obtain ⟨snap, -, rfl⟩ := Option.map_eq_some_iff.mp hnext
      refine ⟨?_, h.strays, fun op => ?_⟩
      · intro req hreq
        rcases List.mem_append.mp hreq with hreq | hreq
        · exact h.stages req hreq
        · cases List.mem_singleton.mp hreq
          rfl
      · have hasked := h.counted op
        have hnone : [Stage.asked (.get id)].filterMap askedOperation = [] := rfl
        simp only [Page.asked, List.filterMap_append, hnone, List.append_nil] at hasked ⊢
        exact hasked
  | serve i =>
      simp only [Page.next] at hnext
      split at hnext
      · next req hstage =>
          cases hnext
          refine h.of_served ?_ (List.Subset.refl _) ?_
          · intro req' hreq'
            rcases List.mem_or_eq_of_mem_set hreq' with hreq' | hreq'
            · exact hreq'
            · cases hreq'
          · intro op
            have hset := count_set askedOperation op hstage
              (.answered (handle s.api.env s.api.server req).response)
            have hnone : (askedOperation (.answered (handle s.api.env s.api.server req).response)).toList
                = [] := rfl
            have hsome : askedOperation (.asked req) = operationOf req := rfl
            rw [hnone, hsome, List.count_nil] at hset
            simp only [Page.served]
            omega
      · cases hnext
  | deliver i =>
      simp only [Page.next] at hnext
      split at hnext
      · next response hstage =>
          obtain ⟨snap, -, rfl⟩ := Option.map_eq_some_iff.mp hnext
          refine h.of_kept (fun req hreq => List.mem_of_mem_eraseIdx hreq) (fun _ => .inl) fun op => ?_
          have herase := count_eraseIdx askedOperation op hstage
          omega
      · cases hnext
  | lose i =>
      simp only [Page.next] at hnext
      split at hnext
      · next req hstage =>
          obtain ⟨snap, -, rfl⟩ := Option.map_eq_some_iff.mp hnext
          refine h.of_kept (fun req hreq => List.mem_of_mem_eraseIdx hreq) ?_ fun op => ?_
          · intro req' hreq'
            rcases List.mem_append.mp hreq' with hreq' | hreq'
            · exact .inl hreq'
            · cases List.mem_singleton.mp hreq'
              exact .inr (List.mem_of_getElem? hstage)
          · have herase := count_eraseIdx askedOperation op hstage
            have hone : [req].filterMap operationOf = (askedOperation (.asked req)).toList := by
              rw [List.filterMap_cons, askedOperation]
              cases operationOf req <;> rfl
            rw [List.filterMap_append, List.count_append, hone]
            omega
      · next response hstage =>
          obtain ⟨snap, -, rfl⟩ := Option.map_eq_some_iff.mp hnext
          refine h.of_kept (fun req hreq => List.mem_of_mem_eraseIdx hreq) (fun _ => .inl) fun op => ?_
          have herase := count_eraseIdx askedOperation op hstage
          omega
      · cases hnext
  | stray i =>
      simp only [Page.next] at hnext
      split at hnext
      · next req hstray =>
          cases hnext
          refine h.of_served (fun _ hreq => hreq) (fun _ => List.mem_of_mem_eraseIdx) ?_
          intro op
          have herase := count_eraseIdx operationOf op hstray
          simp only [Page.served]
          omega
      · cases hnext
  | vanish i =>
      simp only [Page.next] at hnext
      split_ifs at hnext with hi
      cases hnext
      refine h.of_kept (fun _ hreq => hreq) (fun req hreq => .inl (List.mem_of_mem_eraseIdx hreq))
        fun op => ?_
      have herase := count_eraseIdx operationOf op (List.getElem?_eq_getElem hi)
      omega
  | other api =>
      cases hnext
      exact ⟨h.stages, h.strays, h.counted⟩

end Page

namespace Page

/-- What the server has called for the page has been clicked, no operation more often; and what it calls
at the event, once at most, is about the snap. -/
structure CallsAreClicked (id : String) (s s' : Page) : Prop where
  counted : ∀ op, (s'.called.map callOperation).count op ≤ s'.clicked.count op
  about : ∃ calls, s'.called = s.called ++ calls ∧ calls.length ≤ 1 ∧
    ∀ call ∈ calls, IsAbout s.api.env.client s.api.server.stateTracker id call

/-- What is called at an event: nothing, or what a request comes to that is served then. -/
lemma called_next {lib : Libraries} {id : String} {s s' : Page} {e : PageEvent}
    (hnext : s.next lib id e = some s') :
    s'.called = s.called ∨ ∃ req, (.asked req ∈ s.stages ∨ req ∈ s.strays) ∧
      s'.called = (s.served req).called := by
  cases e with
  | click c =>
      cases hnext
      exact .inl rfl
  | fire =>
      obtain ⟨snap, -, rfl⟩ := Option.map_eq_some_iff.mp hnext
      exact .inl rfl
  | serve i =>
      simp only [Page.next] at hnext
      split at hnext
      · next req hstage =>
          cases hnext
          exact .inr ⟨req, .inl (List.mem_of_getElem? hstage), rfl⟩
      · cases hnext
  | deliver i =>
      simp only [Page.next] at hnext
      split at hnext
      · obtain ⟨snap, -, rfl⟩ := Option.map_eq_some_iff.mp hnext
        exact .inl rfl
      · cases hnext
  | lose i =>
      simp only [Page.next] at hnext
      split at hnext
      · obtain ⟨snap, -, rfl⟩ := Option.map_eq_some_iff.mp hnext
        exact .inl rfl
      · obtain ⟨snap, -, rfl⟩ := Option.map_eq_some_iff.mp hnext
        exact .inl rfl
      · cases hnext
  | stray i =>
      simp only [Page.next] at hnext
      split at hnext
      · next req hstray =>
          cases hnext
          exact .inr ⟨req, .inr (List.mem_of_getElem? hstray), rfl⟩
      · cases hnext
  | vanish i =>
      simp only [Page.next] at hnext
      split_ifs at hnext
      cases hnext
      exact .inl rfl
  | other api =>
      cases hnext
      exact .inl rfl

/-- What is called at an event is about the snap. -/
lemma Clicked.about {lib : Libraries} {id : String} {s s' : Page} (h : s.Clicked id) {e : PageEvent}
    (hnext : s.next lib id e = some s') :
    ∃ calls, s'.called = s.called ++ calls ∧ calls.length ≤ 1 ∧
      ∀ call ∈ calls, IsAbout s.api.env.client s.api.server.stateTracker id call := by
  rcases called_next hnext with hcalled | ⟨req, hreq, hcalled⟩
  · exact ⟨[], by rw [hcalled, List.append_nil], by simp, by simp⟩
  · have hname : requestName req = some id := hreq.elim (h.stages req) (h.strays req)
    obtain ⟨hlength, hall⟩ := handle_calls s.api.env s.api.server req
    exact ⟨_, hcalled, hlength, fun call hcall => (hall call hcall).2 id hname⟩

end Page

lemma Origin.clicked_page (lib : Libraries) (id : String) (origin : Origin) (api : API) :
    (origin.page lib id api).Clicked id := by
  have hget : ∀ stage ∈ (origin.page lib id api).stages, stage = .asked (.get id) := by
    intro stage hstage
    obtain ⟨_, -, rfl⟩ := List.mem_map.mp hstage
    rfl
  have hnone : (origin.page lib id api).stages.filterMap Page.askedOperation = [] := by
    rw [List.filterMap_eq_nil_iff]
    intro stage hstage
    rw [hget stage hstage]
    rfl
  refine ⟨?_, nofun, fun op => ?_⟩
  · intro req hreq
    cases hget _ hreq
    rfl
  · rw [Page.asked, hnone]
    exact Nat.le_refl 0

/-- **Calls and clicks.**  In every run from a page's first state, however requests and answers travel
and get lost, and whatever else happens to the server: after each event, the server has called an
operation for the page no more often than the user has clicked it; and what it calls at the event is one
call at most, about the page's snap, or to abort the change that is tracked for it then. -/
theorem calls_le_clicks (lib : Libraries) (id : String) (origin : Origin) (api : API)
    (es : List PageEvent) :
    (Page.machine lib id).Along (fun s _ s' => s.CallsAreClicked id s') (origin.page lib id api) es := by
  refine Machine.Along.of_invariant (C := fun _ _ _ => True) ?_ ?_ (origin.clicked_page lib id api)
    (Machine.along_of_forall _ fun _ _ => trivial)
  · intro s e s' h hnext _
    exact h.next hnext
  · intro s e s' h hnext _
    refine ⟨fun op => ?_, h.about hnext⟩
    have hcounted := (h.next hnext).counted op
    simp only [Page.asked] at hcounted
    omega

end Client

end Snapweb
