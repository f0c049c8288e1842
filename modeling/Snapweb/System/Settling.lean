import Mathlib.Algebra.GroupWithZero.Nat
import Snapweb.Client.Consistency
import Snapweb.System.Page

/-!
# How a page settles

Once the server is at rest with a snap, a page of it is left with the requests and timers that are
there.  Each of them comes to an end, and the page then shows what snapd has.

* `page_settles` — how many events there still are, and what the page shows after them.
-/

namespace Snapweb

namespace Client

/-- The server is at rest with a snap: snapd has a record of it, and no operation that is tracked for
it is unfinished. -/
structure AtRest (id : String) (snap : Snap) (api : API) : Prop where
  found : getSnap api.env.client id = .ok (some snap)
  named : snap.name = id
  idle : ∀ e, api.server.stateTracker.lookup id = some e → hasOperationCompleted e.status snap = true

section
variable {id : String} {snap : Snap} {api : API}

/-- What is reported of a snap at rest is snapd's word. -/
lemma AtRest.state (h : AtRest id snap api) :
    (api.server.stateTracker.state (some api.env.client) snap).1.status = translateStatus snap := by
  rcases hlookup : api.server.stateTracker.lookup snap.name with _ | e
  · rw [StateTracker.state_of_untracked _ hlookup]
  · have hdone := h.idle e (by rw [← h.named, hlookup])
    rw [StateTracker.state_of_completed _ hlookup hdone]

/-- A refresh of a snap at rest. -/
lemma AtRest.handle_get (h : AtRest id snap api) :
    ∃ pkg, (handle api.env api.server (.get id)).response = some { code := 200, body := .snap pkg } ∧
      pkg.state.status = (translateStatus snap).text := by
  refine ⟨(snapToPayload api.env api.server snap).1, ?_, ?_⟩
  · simp only [handle, get, packagePayload, h.found]
  · rw [snapToPayload_status, h.state]

/-- A refresh leaves the server at rest. -/
lemma AtRest.served (h : AtRest id snap api) :
    AtRest id snap { api with server := (handle api.env api.server (.get id)).server } := by
  refine ⟨h.found, h.named, fun e he => ?_⟩
  rcases (get_grows id api.env api.server).lookup id with heq | hnone
  · exact h.idle e (heq ▸ he)
  · exact absurd (hnone.symm.trans he) nofun

/-- No operation runs, as far as snapd's word goes. -/
lemma isTransitional_translateStatus (snap : Snap) :
    isTransitional (.str (translateStatus snap).text) = false := by
  rw [translateStatus]
  split_ifs <;> decide

end

/-! ## What is on its way -/

/-- What is on its way for a request, while the server is at rest: a refresh that the server is asked
for; news of the snap, which are of an operation or of the present state; or that an operation has
been accepted. -/
def Owes (id : String) (snap : Snap) (r : Request) : Stage → Prop
  | .asked req => r = .fetch ∧ req = .get id
  | .answered response =>
      (r = .fetch ∧ ∃ pkg, response = some { code := 200, body := .snap pkg } ∧
        (isTransitional (.str pkg.state.status) = true ∨
          pkg.state.status = (translateStatus snap).text)) ∨
      (r ≠ .fetch ∧ ∃ message package,
        response = some { code := 202, body := .operation message package })

/-- How many events there may still be for a request. -/
def Stage.weight : Stage → ℕ
  | .asked _ => 2
  | .answered (some { code := _, body := .snap pkg }) =>
      if isTransitional (.str pkg.state.status) then 4 else 1
  | .answered _ => 4

namespace Page

/-- How many events there may still be. -/
def remaining (s : Page) : ℕ := 3 * s.snap.timers + (s.stages.map Stage.weight).sum

/-- Nothing is on its way that is not known here, and the page has the state of the snap, or news are
to come. -/
structure InOrder (id : String) (snap : Snap) (s : Page) : Prop where
  rest : AtRest id snap s.api
  strays : s.strays = []
  owes : List.Forall₂ (Owes id snap) s.snap.requests s.stages
  news : s.snap.status = .str (translateStatus snap).text ∨ 0 < s.snap.timers ∨
    .fetch ∈ s.snap.requests ∨ (isTransitional s.snap.status = true ∧ s.snap.requests ≠ [])

/-- The user does nothing, nothing is lost, and the server stays at rest. -/
def Calm (id : String) (snap : Snap) (_ : Page) (e : PageEvent) (_ : Page) : Prop :=
  match e with
  | .click _ | .lose _ => False
  | .other api => AtRest id snap api
  | _ => True

/-- The events of the page and its requests. -/
def isOwn : PageEvent → Bool
  | .fire | .serve _ | .deliver _ => true
  | _ => false

section
variable {α β : Type} {R : α → β → Prop} {as : List α} {bs : List β} {i : ℕ} {b : β}

lemma forall₂_eraseIdx (h : List.Forall₂ R as bs) (i : ℕ) :
    List.Forall₂ R (as.eraseIdx i) (bs.eraseIdx i) := by
  induction h generalizing i with
  | nil => exact .nil
  | cons hab h ih =>
      cases i with
      | zero => exact h
      | succ i => exact .cons hab (ih i)

lemma forall₂_set (h : List.Forall₂ R as bs) (hb : ∀ a, as[i]? = some a → R a b) :
    List.Forall₂ R as (bs.set i b) := by
  induction h generalizing i with
  | nil => exact .nil
  | cons hab h ih =>
      cases i with
      | zero => exact .cons (hb _ rfl) h
      | succ i => exact .cons hab (ih hb)

lemma exists_of_forall₂ (h : List.Forall₂ R as bs) (hb : bs[i]? = some b) :
    ∃ a, as[i]? = some a ∧ R a b := by
  induction h generalizing i with
  | nil => cases hb
  | cons hab h ih =>
      cases i with
      | zero =>
          cases hb
          exact ⟨_, rfl, hab⟩
      | succ i => exact ih hb

lemma forall₂_imp_mem {R' : α → β → Prop} (h : List.Forall₂ R as bs)
    (himp : ∀ a, ∀ b ∈ bs, R a b → R' a b) : List.Forall₂ R' as bs := by
  induction h with
  | nil => exact .nil
  | cons hab h ih =>
      exact .cons (himp _ _ List.mem_cons_self hab)
        (ih fun a b hb => himp a b (List.mem_cons_of_mem _ hb))

end

/-- A weight that is taken away, or exchanged. -/
lemma sum_eraseIdx {α : Type} (f : α → ℕ) {l : List α} {i : ℕ} {a : α} (h : l[i]? = some a) :
    ((l.eraseIdx i).map f).sum + f a = (l.map f).sum := by
  obtain ⟨hi, rfl⟩ := List.getElem?_eq_some_iff.mp h
  rw [← ((List.getElem_cons_eraseIdx_perm hi).map f).sum_nat, List.map_cons, List.sum_cons]
  omega

lemma sum_set {α : Type} (f : α → ℕ) {l : List α} {i : ℕ} {a : α} (h : l[i]? = some a) (b : α) :
    ((l.set i b).map f).sum + f a = (l.map f).sum + f b := by
  obtain ⟨hi, -⟩ := List.getElem?_eq_some_iff.mp h
  have herase := sum_eraseIdx f h
  rw [((List.set_perm_cons_eraseIdx hi b).map f).sum_nat, List.map_cons, List.sum_cons]
  omega

variable {lib : Libraries} {id : String} {snap : Snap} {s s' : Page}

lemma overtake_eq_fetch {r : Request} (changed : Bool) : r.overtake changed = .fetch ↔ r = .fetch := by
  cases r <;> simp [Request.overtake]

/-- A timer ends. -/
lemma InOrder.fire (h : s.InOrder id snap) (hnext : s.next lib id .fire = some s') :
    s'.InOrder id snap ∧ s'.remaining + 1 ≤ s.remaining := by
  obtain ⟨polled, hpolled, rfl⟩ := Option.map_eq_some_iff.mp hnext
  rw [PolledSnap.next] at hpolled
  split_ifs at hpolled with htimers
  cases hpolled
  refine ⟨⟨h.rest, h.strays, ?_, ?_⟩, ?_⟩
  · exact List.rel_append h.owes (.cons ⟨rfl, rfl⟩ .nil)
  · exact .inr (.inr (.inl (List.mem_append_right _ List.mem_cons_self)))
  · simp only [remaining, List.map_append, List.sum_append, List.map_singleton, List.sum_singleton,
      Stage.weight]
    omega

/-- A request is served. -/
lemma InOrder.serve (h : s.InOrder id snap) {i : ℕ} (hnext : s.next lib id (.serve i) = some s') :
    s'.InOrder id snap ∧ s'.remaining + 1 ≤ s.remaining := by
  simp only [Page.next] at hnext
  split at hnext
  · next req hstage =>
      cases hnext
      obtain ⟨r, hr, rfl, rfl⟩ := exists_of_forall₂ h.owes hstage
      obtain ⟨pkg, hresponse, hstatus⟩ := h.rest.handle_get
      rw [hresponse]
      have hquiet : isTransitional (.str pkg.state.status) = false := by
        rw [hstatus]
        exact isTransitional_translateStatus snap
      refine ⟨⟨h.rest.served, h.strays, forall₂_set h.owes ?_, h.news⟩, ?_⟩
      · intro r' hr'
        obtain rfl : r' = .fetch := Option.some_inj.mp (hr'.symm.trans hr)
        exact .inl ⟨rfl, pkg, rfl, .inr hstatus⟩
      · have hsum := sum_set Stage.weight hstage (.answered (some { code := 200, body := .snap pkg }))
        simp only [Stage.weight, hquiet, Bool.false_eq_true, if_false] at hsum
        simp only [remaining, served]
        omega
  · cases hnext

@[simp] lemma model_synced (p : PolledSnap) : p.synced.model = p.model := by
  rw [PolledSnap.synced]
  split_ifs <;> rfl

@[simp] lemma timers_synced (p : PolledSnap) :
    p.synced.timers = p.timers + if isTransitional p.status then 1 else 0 := by
  rw [PolledSnap.synced]
  split_ifs <;> rfl

/-- News of the snap are delivered. -/
lemma InOrder.payload (h : s.InOrder id snap) {i : ℕ} {pkg : SnapPkg} {polled : PolledSnap}
    (hstage : s.stages[i]? = some (.answered (some { code := 200, body := .snap pkg })))
    (hr : s.snap.requests[i]? = some .fetch)
    (hpkg : isTransitional (.str pkg.state.status) = true ∨
      pkg.state.status = (translateStatus snap).text)
    (hnext : s.snap.next lib (.payload i pkg) = some polled) :
    ({ s with snap := polled, stages := s.stages.eraseIdx i } : Page).InOrder id snap ∧
      ({ s with snap := polled, stages := s.stages.eraseIdx i } : Page).remaining + 1
        ≤ s.remaining := by
  simp only [PolledSnap.next, hr] at hnext
  cases hnext
  set received := s.snap.finish i (s.snap.model.receive lib pkg.encode) with hreceived
  have hstatus : (received.overtake s.snap.status).status = .str pkg.state.status :=
    SnapModel.get_receive (by decide) _
  have hstatus' : (received.overtake s.snap.status).synced.status = .str pkg.state.status := by
    rw [PolledSnap.status, model_synced]
    exact hstatus
  refine ⟨⟨h.rest, h.strays, ?_, ?_⟩, ?_⟩
  · rw [PolledSnap.requests_synced, PolledSnap.overtake, List.forall₂_map_left_iff]
    refine (forall₂_eraseIdx h.owes i).imp fun r stage howes => ?_
    cases stage <;> simpa only [Owes, overtake_eq_fetch, ne_eq] using howes
  · rw [hstatus', timers_synced, hstatus]
    rcases hpkg with hpkg | hpkg
    · exact .inr (.inl (by rw [hpkg]; exact Nat.succ_pos _))
    · exact .inl (by rw [hpkg])
  · have hsum := sum_eraseIdx Stage.weight hstage
    have htimers : (received.overtake s.snap.status).timers = s.snap.timers := rfl
    rw [remaining, remaining, timers_synced, hstatus, htimers]
    simp only [Stage.weight] at hsum ⊢
    split_ifs at hsum ⊢ <;> omega

/-- An operation has been accepted. -/
lemma InOrder.accepted (h : s.InOrder id snap) {i : ℕ} {r : Request} {message package : String}
    {polled : PolledSnap}
    (hstage : s.stages[i]? = some
      (.answered (some { code := 202, body := .operation message package })))
    (hr : s.snap.requests[i]? = some r) (hne : r ≠ .fetch)
    (hnext : s.snap.next lib (.accepted i package message) = some polled) :
    ({ s with snap := polled, stages := s.stages.eraseIdx i } : Page).InOrder id snap ∧
      ({ s with snap := polled, stages := s.stages.eraseIdx i } : Page).remaining + 1
        ≤ s.remaining := by
  have hpolled : ∃ m : SnapModel, polled = (s.snap.finish i m).synced ∧
      m.attributes.get .status = s.snap.status := by
    cases r with
    | fetch => exact absurd rfl hne
    | save before overtaken =>
        simp only [PolledSnap.next, hr] at hnext
        cases hnext
        exact ⟨_, rfl, SnapModel.get_receive (by decide) _⟩
    | destroy =>
        simp only [PolledSnap.next, hr] at hnext
        cases hnext
        exact ⟨_, rfl, rfl⟩
  obtain ⟨m, rfl, hstatus⟩ := hpolled
  have hstatus' : (s.snap.finish i m).synced.status = s.snap.status := by
    rw [PolledSnap.status, model_synced]
    exact hstatus
  have hfinished : (s.snap.finish i m).status = s.snap.status := hstatus
  refine ⟨⟨h.rest, h.strays, ?_, ?_⟩, ?_⟩
  · rw [PolledSnap.requests_synced]
    exact forall₂_eraseIdx h.owes i
  · rw [hstatus', timers_synced, hfinished, PolledSnap.requests_synced]
    rcases h.news with hnow | htimers | hfetch | ⟨htrans, -⟩
    · exact .inl hnow
    · exact .inr (.inl (Nat.lt_add_right _ htimers))
    · refine .inr (.inr (.inl ?_))
      obtain ⟨j, hj⟩ := List.getElem?_of_mem hfetch
      have hij : j ≠ i := by
        rintro rfl
        exact hne (Option.some_inj.mp (hr.symm.trans hj))
      exact List.mem_eraseIdx_iff_getElem?.mpr ⟨j, hij, hj⟩
    · exact .inr (.inl (by rw [htrans]; exact Nat.succ_pos _))
  · have hsum := sum_eraseIdx Stage.weight hstage
    have htimers : (s.snap.finish i m).timers = s.snap.timers := rfl
    rw [remaining, remaining, timers_synced, hfinished, htimers]
    simp only [Stage.weight] at hsum ⊢
    split_ifs <;> omega

/-- An answer is delivered. -/
lemma InOrder.deliver (h : s.InOrder id snap) {i : ℕ} (hnext : s.next lib id (.deliver i) = some s') :
    s'.InOrder id snap ∧ s'.remaining + 1 ≤ s.remaining := by
  simp only [Page.next] at hnext
  split at hnext
  · next response hstage =>
      obtain ⟨polled, hpolled, rfl⟩ := Option.map_eq_some_iff.mp hnext
      obtain ⟨r, hr, ⟨rfl, pkg, rfl, hpkg⟩ | ⟨hne, message, package, rfl⟩⟩ :=
        exists_of_forall₂ h.owes hstage
      · exact h.payload hstage hr hpkg hpolled
      · exact h.accepted hstage hr hne hpolled
  · cases hnext

/-- One event while the server stays at rest. -/
lemma InOrder.next (h : s.InOrder id snap) {e : PageEvent} (hnext : s.next lib id e = some s')
    (hcalm : Calm id snap s e s') :
    s'.InOrder id snap ∧ s'.remaining + (if isOwn e then 1 else 0) ≤ s.remaining := by
  cases e with
  | click c => exact hcalm.elim
  | lose i => exact hcalm.elim
  | fire => exact h.fire hnext
  | serve i => exact h.serve hnext
  | deliver i => exact h.deliver hnext
  | stray i =>
      simp [Page.next, h.strays] at hnext
  | vanish i =>
      simp [Page.next, h.strays] at hnext
  | other api =>
      cases hnext
      exact ⟨⟨hcalm, h.strays, h.owes, h.news⟩, Nat.le_refl _⟩

/-- Where something is on its way, an event of it can happen. -/
lemma InOrder.can_go_on (h : s.InOrder id snap) (lib : Libraries) (hstages : s.stages ≠ []) :
    ∃ e, isOwn e = true ∧ (s.next lib id e).isSome := by
  obtain ⟨stage, stages, hcons⟩ := List.exists_cons_of_ne_nil hstages
  have hstage : s.stages[0]? = some stage := by rw [hcons]; rfl
  obtain ⟨r, hr, howes⟩ := exists_of_forall₂ h.owes hstage
  cases stage with
  | asked req => exact ⟨.serve 0, rfl, by simp [Page.next, hstage]⟩
  | answered response =>
      refine ⟨.deliver 0, rfl, ?_⟩
      rcases howes with ⟨rfl, pkg, rfl, -⟩ | ⟨hne, message, package, rfl⟩
      · simp [Page.next, hstage, answerEvent, PolledSnap.next, hr]
      · cases r with
        | fetch => exact absurd rfl hne
        | save before overtaken => simp [Page.next, hstage, answerEvent, PolledSnap.next, hr]
        | destroy => simp [Page.next, hstage, answerEvent, PolledSnap.next, hr]

/-- A page on which nothing can happen has the state of the snap. -/
lemma InOrder.settled (h : s.InOrder id snap)
    (hdone : ∀ e, isOwn e = true → s.next lib id e = none) :
    s.stages = [] ∧ s.snap.timers = 0 ∧ s.snap.status = .str (translateStatus snap).text := by
  have hstages : s.stages = [] := by
    by_contra hne
    obtain ⟨e, hown, hsome⟩ := h.can_go_on lib hne
    rw [hdone e hown] at hsome
    cases hsome
  have htimers : s.snap.timers = 0 := by
    by_contra hne
    have hfire := hdone .fire rfl
    simp [Page.next, PolledSnap.next, Nat.pos_of_ne_zero hne] at hfire
  have hrequests : s.snap.requests = [] := by
    have howes := h.owes
    rw [hstages] at howes
    exact List.forall₂_nil_right_iff.mp howes
  refine ⟨hstages, htimers, ?_⟩
  rcases h.news with hnow | hpos | hfetch | ⟨-, hne⟩
  · exact hnow
  · omega
  · rw [hrequests] at hfetch
    cases hfetch
  · exact absurd hrequests hne

/-- Nothing can happen on a page without timers on which nothing is on its way. -/
lemma next_of_idle (hstages : s.stages = []) (htimers : s.snap.timers = 0) {e : PageEvent}
    (hown : isOwn e = true) : s.next lib id e = none := by
  cases e with
  | fire => simp [Page.next, PolledSnap.next, htimers]
  | serve i => simp [Page.next, hstages]
  | deliver i => simp [Page.next, hstages]
  | _ => cases hown

/-! ## Requests and where they are -/

/-- The request is for an operation. -/
def isOperation : Snapweb.Request → Bool
  | .getAll _ | .get _ => false
  | _ => true

/-- A request of the page, and where it is: refreshes ask for the snap, and the others for
operations; no refresh is answered like an operation, and no operation like a refresh. -/
def Matches (id : String) (r : Request) : Stage → Prop
  | .asked req => (r = .fetch ∧ req = .get id) ∨ (r ≠ .fetch ∧ isOperation req = true)
  | .answered response => ∀ resp ∈ response,
      (r = .fetch → ∀ message package, resp.body ≠ .operation message package) ∧
        (r ≠ .fetch → ∀ pkg, resp.body ≠ .snap pkg)

/-- What a refresh is answered. -/
lemma response_get (env : Surroundings) (sv : Server) (name : String) :
    ∀ resp ∈ (handle env sv (.get name)).response, ∀ message package,
      resp.body ≠ .operation message package := by
  intro resp hresp message package
  simp only [handle, get] at hresp
  split at hresp <;> cases hresp <;> simp

/-- What an operation is answered. -/
lemma response_operation (env : Surroundings) (sv : Server) {req : Snapweb.Request}
    (h : isOperation req = true) :
    ∀ resp ∈ (handle env sv req).response, ∀ pkg, resp.body ≠ .snap pkg := by
  have hoperate : ∀ op name, ∀ resp ∈ (operate op name env sv).response, ∀ pkg,
      resp.body ≠ .snap pkg := by
    intro op name resp hresp pkg
    simp only [operate] at hresp
    split at hresp <;> cases hresp <;> simp [snapOperationResponse]
  intro resp hresp pkg
  cases req with
  | getAll form => cases h
  | get name => cases h
  | add name => exact hoperate _ name resp hresp pkg
  | remove name => exact hoperate _ name resp hresp pkg
  | update name body =>
      by_cases hempty : name = ""
      · rw [handle, hempty, update_unnamed] at hresp
        cases hresp
        simp
      · rcases hop : body.operation with _ | op
        · rw [handle, update_of_no_operation hempty hop] at hresp
          cases body <;> cases hresp <;> simp [snapOperationResponse]
        · rw [handle, update_of_operation hempty hop] at hresp
          cases hresp
          split_ifs <;> simp [snapOperationResponse]

/-- A request that is served. -/
lemma Matches.served {r : Request} {req : Snapweb.Request} (h : Matches id r (.asked req))
    (env : Surroundings) (sv : Server) : Matches id r (.answered (handle env sv req).response) := by
  intro resp hresp
  rcases h with ⟨rfl, rfl⟩ | ⟨hne, hoperation⟩
  · exact ⟨fun _ => response_get env sv id resp hresp, fun hne => absurd rfl hne⟩
  · exact ⟨fun heq => absurd heq hne, fun _ => response_operation env sv hoperation resp hresp⟩

lemma Matches.overtake {r : Request} {stage : Stage} (h : Matches id r stage) (changed : Bool) :
    Matches id (r.overtake changed) stage := by
  cases stage <;> simpa only [Matches, overtake_eq_fetch, ne_eq] using h

/-- An answer, or a failure, takes the request away. -/
lemma requests_of_answer {e : PollEvent} {i : ℕ} {polled : PolledSnap}
    (he : (∃ pkg, e = .payload i pkg) ∨ (∃ package message, e = .accepted i package message) ∨
      ∃ notFound message, e = .fail i notFound message)
    (hnext : s.snap.next lib e = some polled) :
    polled.requests = s.snap.requests.eraseIdx i ∨ ∃ changed,
      polled.requests = (s.snap.requests.eraseIdx i).map (.overtake changed) := by
  rcases he with ⟨pkg, rfl⟩ | ⟨package, message, rfl⟩ | ⟨notFound, message, rfl⟩
  · rw [PolledSnap.next] at hnext
    split at hnext
    · cases hnext
      rw [PolledSnap.requests_synced]
      exact .inr ⟨_, rfl⟩
    · cases hnext
  · rw [PolledSnap.next] at hnext
    split at hnext
    · cases hnext
      rw [PolledSnap.requests_synced]
      exact .inl rfl
    · cases hnext
      rw [PolledSnap.requests_synced]
      exact .inl rfl
    · cases hnext
  · rw [PolledSnap.next] at hnext
    split at hnext
    · cases hnext
      exact .inl rfl
    · cases hnext

/-- What is delivered is an answer, or a failure. -/
lemma answerEvent_cases (i : ℕ) (response : Option Response) :
    (∃ pkg, answerEvent i response = .payload i pkg) ∨
      (∃ package message, answerEvent i response = .accepted i package message) ∨
      ∃ notFound message, answerEvent i response = .fail i notFound message := by
  unfold answerEvent
  split
  · exact .inr (.inr ⟨_, _, rfl⟩)
  · exact .inl ⟨_, rfl⟩
  · exact .inr (.inl ⟨_, _, rfl⟩)
  · exact .inr (.inr ⟨_, _, rfl⟩)

/-- Every request of the page has a place. -/
def Matched (id : String) (s : Page) : Prop :=
  List.Forall₂ (Matches id) s.snap.requests s.stages

lemma Matched.erase (h : s.Matched id) {e : PollEvent} {i : ℕ} {polled : PolledSnap}
    (he : (∃ pkg, e = .payload i pkg) ∨ (∃ package message, e = .accepted i package message) ∨
      ∃ notFound message, e = .fail i notFound message)
    (hnext : s.snap.next lib e = some polled) :
    List.Forall₂ (Matches id) polled.requests (s.stages.eraseIdx i) := by
  have herase := forall₂_eraseIdx h i
  rcases requests_of_answer he hnext with hrequests | ⟨changed, hrequests⟩
  · rw [hrequests]
    exact herase
  · rw [hrequests, List.forall₂_map_left_iff]
    exact herase.imp fun _ _ hmatches => hmatches.overtake changed

/-- A click. -/
lemma Matched.click (h : s.Matched id) (c : Click)
    (hnext : s.next lib id (.click c) = some s') : s'.Matched id := by
  cases hnext
  rcases c.handle lib s.snap.model with ⟨m, _ | call⟩
  · simpa [Matched, asks, PolledSnap.clicked] using h
  · have hadd : ∀ (r : Request) (req : Snapweb.Request), r ≠ .fetch → isOperation req = true →
        List.Forall₂ (Matches id) (s.snap.requests ++ [r]) (s.stages ++ [.asked req]) :=
      fun r req hne hoperation => List.rel_append h (.cons (.inr ⟨hne, hoperation⟩) .nil)
    cases call with
    | destroy =>
        cases c.callType s.snap.model <;> exact hadd _ _ (by simp) rfl
    | save =>
        cases c.callType s.snap.model <;> exact hadd _ _ (by simp) rfl

/-- One event. -/
lemma Matched.next (h : s.Matched id) {e : PageEvent} (hnext : s.next lib id e = some s') :
    s'.Matched id := by
  cases e with
  | click c => exact h.click c hnext
  | fire =>
      obtain ⟨polled, hpolled, rfl⟩ := Option.map_eq_some_iff.mp hnext
      rw [PolledSnap.next] at hpolled
      split_ifs at hpolled
      cases hpolled
      exact List.rel_append h (.cons (.inl ⟨rfl, rfl⟩) .nil)
  | serve i =>
      simp only [Page.next] at hnext
      split at hnext
      · next req hstage =>
          cases hnext
          obtain ⟨r, hr, hmatches⟩ := exists_of_forall₂ h hstage
          refine forall₂_set h fun r' hr' => ?_
          cases hr.symm.trans hr'
          exact hmatches.served _ _
      · cases hnext
  | deliver i =>
      simp only [Page.next] at hnext
      split at hnext
      · obtain ⟨polled, hpolled, rfl⟩ := Option.map_eq_some_iff.mp hnext
        exact h.erase (answerEvent_cases i _) hpolled
      · cases hnext
  | lose i =>
      simp only [Page.next] at hnext
      split at hnext
      · obtain ⟨polled, hpolled, rfl⟩ := Option.map_eq_some_iff.mp hnext
        exact h.erase (.inr (.inr ⟨_, _, rfl⟩)) hpolled
      · obtain ⟨polled, hpolled, rfl⟩ := Option.map_eq_some_iff.mp hnext
        exact h.erase (.inr (.inr ⟨_, _, rfl⟩)) hpolled
      · cases hnext
  | stray i =>
      simp only [Page.next] at hnext
      split at hnext
      · cases hnext
        exact h
      · cases hnext
  | vanish i =>
      simp only [Page.next] at hnext
      split_ifs at hnext
      cases hnext
      exact h
  | other api =>
      cases hnext
      exact h

/-! ## Quiet pages -/

/-- What is on its way is a refresh, or news that are of an operation or of the present state, or an
operation that has been accepted. -/
def QuietStage (id : String) (snap : Snap) : Stage → Prop
  | .asked req => req = .get id
  | .answered response =>
      (∃ pkg, response = some { code := 200, body := .snap pkg } ∧
        (isTransitional (.str pkg.state.status) = true ∨
          pkg.state.status = (translateStatus snap).text)) ∨
      ∃ message package, response = some { code := 202, body := .operation message package }

/-- The server is at rest with the snap, no operation is to be served any more, no failure is on its
way, and the page has the state of the snap, or news are to come. -/
structure Quiet (id : String) (snap : Snap) (s : Page) : Prop where
  rest : AtRest id snap s.api
  strays : s.strays = []
  stages : ∀ stage ∈ s.stages, QuietStage id snap stage
  news : s.snap.status = .str (translateStatus snap).text ∨ 0 < s.snap.timers ∨
    .fetch ∈ s.snap.requests ∨ (isTransitional s.snap.status = true ∧ s.snap.requests ≠ [])

lemma Matches.owes {r : Request} {stage : Stage} (h : Matches id r stage)
    (hquiet : QuietStage id snap stage) : Owes id snap r stage := by
  cases stage with
  | asked req =>
      cases hquiet
      rcases h with ⟨rfl, -⟩ | ⟨-, hoperation⟩
      · exact ⟨rfl, rfl⟩
      · cases hoperation
  | answered response =>
      rcases hquiet with ⟨pkg, rfl, hpkg⟩ | ⟨message, package, rfl⟩
      · have hbody := (h _ rfl).2
        refine .inl ⟨?_, pkg, rfl, hpkg⟩
        by_contra hne
        exact hbody hne pkg rfl
      · have hbody := (h _ rfl).1
        exact .inr ⟨fun hfetch => hbody hfetch message package rfl, message, package, rfl⟩

/-- A quiet page is in order. -/
lemma Matched.inOrder (h : s.Matched id) (hquiet : s.Quiet id snap) : s.InOrder id snap := by
  refine ⟨hquiet.rest, hquiet.strays, ?_, hquiet.news⟩
  exact forall₂_imp_mem h fun _ stage hstage hmatches => hmatches.owes (hquiet.stages stage hstage)

end Page

lemma Origin.matched_page (lib : Libraries) (id : String) (origin : Origin) (api : API) :
    (origin.page lib id api).Matched id := by
  have hfetch : ∀ r ∈ (origin.start lib).requests, r = .fetch := by
    cases origin with
    | fresh id => exact fun r hr => List.mem_singleton.mp hr
    | added pkg =>
        intro r hr
        rw [Origin.start, PolledSnap.requests_synced] at hr
        cases hr
  rw [Page.Matched, Origin.page, List.forall₂_map_right_iff, List.forall₂_same]
  exact fun r hr => .inl ⟨hfetch r hr, rfl⟩

/-- **Settling.**  Let a page have come by any run to where it is quiet: the server is at rest with the
snap, no operation is to be served any more, no failure and no news of an earlier state of rest are on
their way, and the page shows what snapd has, or news are to come.  While the user does nothing,
nothing is lost and the server stays at rest, the page has only so many events before it; and when
none can happen any more, nothing is on its way, and the page shows what snapd has. -/
theorem page_settles (lib : Libraries) {id : String} (origin : Origin) (api : API) {snap : Snap}
    {before after : List PageEvent} {s t : Page}
    (hbefore : (Page.machine lib id).exec (origin.page lib id api) before = some s)
    (hquiet : s.Quiet id snap)
    (hcalm : (Page.machine lib id).Along (Page.Calm id snap) s after)
    (hafter : (Page.machine lib id).exec s after = some t) :
    after.countP Page.isOwn ≤ s.remaining ∧
      ((∀ e, Page.isOwn e = true → t.next lib id e = none) →
        t.stages = [] ∧ t.snap.timers = 0 ∧ t.snap.status = .str (translateStatus snap).text) := by
  have hkept : ∀ s e s', Page.Matched id s → (Page.machine lib id).next s e = some s' →
      s'.Matched id :=
    fun s e s' h hnext => h.next hnext
  have hmatched : s.Matched id :=
    Machine.Reaches.invariant hkept ⟨before, hbefore⟩ (origin.matched_page lib id api)
  have h : s.InOrder id snap := hmatched.inOrder hquiet
  have hstep : ∀ s e s', Page.InOrder id snap s → (Page.machine lib id).next s e = some s' →
      Page.Calm id snap s e s' → s'.InOrder id snap :=
    fun s e s' h hnext hcalm => (h.next hnext hcalm).1
  constructor
  · have hbound := Machine.countP_add_le hstep
      (fun s e s' h hnext hcalm => (h.next hnext hcalm).2) h hcalm hafter
    omega
  · exact (Machine.exec_invariant hstep h hcalm hafter).settled

/-- The page of a snap that is known by its name, and the server that is at rest with it. -/
def restingPage (snap : Snap) : Page :=
  (Origin.fresh snap.name).page plainLibraries snap.name
    { env := .knowing snap, server := Server.start "" ∅ }

/-- The user disables an active snap, the request is accepted, and snapd disables it. -/
def disabling : List PageEvent :=
  [.serve 0, .deliver 0, .click .enable, .serve 0,
    .other
      { env := .knowing (helloWorld "installed")
        server := { Server.start "" ∅ with
          stateTracker := StateTracker.new.trackDisable "1" (helloWorld "active") } }]

/-- The page settles at the snap's state, after a timer and a refresh. -/
theorem disabling_settles :
    ∃ s t, (Page.machine plainLibraries "hello-world").exec (restingPage (helloWorld "active"))
        disabling = some s ∧ s.snap.status = .str "disabling" ∧
      (Page.machine plainLibraries "hello-world").exec s [.deliver 0, .fire, .serve 0, .deliver 0]
        = some t ∧ t.snap.status = .str "installed" := by
  obtain ⟨s, t, hbefore, hafter, hstatus, hquiet, hstages, htimers⟩ : ∃ s t,
      (Page.machine plainLibraries "hello-world").exec (restingPage (helloWorld "active")) disabling
        = some s ∧
      (Page.machine plainLibraries "hello-world").exec s [.deliver 0, .fire, .serve 0, .deliver 0]
        = some t ∧ s.snap.status = .str "disabling" ∧
      s.Quiet "hello-world" (helloWorld "installed") ∧ t.stages = [] ∧ t.snap.timers = 0 := by
    refine ⟨_, _, rfl, rfl, rfl, ⟨⟨rfl, rfl, ?_⟩, rfl, ?_, ?_⟩, rfl, rfl⟩
    · rintro e ⟨⟩
      decide
    · intro stage hstage
      rw [List.mem_singleton.mp hstage]
      exact .inr ⟨"Accepted", "hello-world", rfl⟩
    · exact .inr (.inr (.inr ⟨by decide, by decide⟩))
  have hcalm : (Page.machine plainLibraries "hello-world").Along
      (Page.Calm "hello-world" (helloWorld "installed")) s [.deliver 0, .fire, .serve 0, .deliver 0] :=
    fun s₁ _ => ⟨trivial, fun s₂ _ => ⟨trivial, fun s₃ _ => ⟨trivial, fun s₄ _ => ⟨trivial, trivial⟩⟩⟩⟩
  refine ⟨s, t, hbefore, hstatus, hafter, ?_⟩
  have hsettled := page_settles plainLibraries (.fresh "hello-world") _ hbefore hquiet hcalm hafter
  exact (hsettled.2 (fun e hown => Page.next_of_idle hstages htimers hown)).2.2

end Client

end Snapweb
