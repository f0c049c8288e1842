import Snapweb.Client.SnapEvents
import Snapweb.Core.Machine

/-!
# Polls, saves and their failures

While an operation runs on a snap, the client's model is refreshed: each answer of the server that
leaves it in such a state starts a timer, at whose end the model is fetched.  An error sets the
attributes back to those before the most recent `set`, whichever that was, and starts no timer.

* `refreshed_iff` — the runs in which a model that is in transition is going to be refreshed.
* `poll_lost` — a run in which it is not.
* `fails_cleanly_iff` — the runs in which a failed fetch changes nothing but the message, and a failed
  save restores the status.
* `summary_set_back` — a run in which a failed fetch does more.
-/

namespace Snapweb

namespace Client

open Backbone

/-- A request to the server.  Of a save it is kept which status the model had before, and whether a
payload has changed the status since. -/
inductive Request
  | fetch
  | save (before : JSValue) (overtaken : Bool)
  | destroy
  deriving DecidableEq

/-- The request after a payload. -/
def Request.overtake (changed : Bool) : Request → Request
  | save before overtaken => save before (overtaken || changed)
  | r => r

/-- A model, with what is on its way for it. -/
structure PolledSnap where
  model : SnapModel
  requests : List Request
  /-- The timers at whose end the model is fetched. -/
  timers : ℕ
  /-- A snap that was being uninstalled has not been found. -/
  gone : Bool

/-- What happens to the model: the user clicks, a timer ends, the server answers a fetch with a
payload, or accepts a save or a removal, or a request fails. -/
inductive PollEvent
  | install
  | enable
  | fire
  | payload (i : ℕ) (pkg : SnapPkg)
  | accepted (i : ℕ) (package message : String)
  | fail (i : ℕ) (notFound : Bool) (message : Option String)

namespace PolledSnap

/-- The status. -/
def status (s : PolledSnap) : JSValue := s.model.attributes.get .status

/-- The handler of `add` and `sync`: a timer is started.  (A missing status is replaced by that of the
response, a number, which is no state.) -/
def synced (s : PolledSnap) : PolledSnap :=
  if isTransitional s.status then { s with timers := s.timers + 1 } else s

/-- A click, and the call that it makes. -/
def clicked (s : PolledSnap) : SnapModel × Option Call → PolledSnap
  | (m, none) => { s with model := m }
  | (m, some .save) => { s with model := m, requests := s.requests ++ [.save s.status false] }
  | (m, some .destroy) => { s with model := m, requests := s.requests ++ [.destroy] }

/-- The model after the request's end. -/
def finish (s : PolledSnap) (i : ℕ) (m : SnapModel) : PolledSnap :=
  { s with model := m, requests := s.requests.eraseIdx i }

/-- A payload has been received. -/
def overtake (s : PolledSnap) (before : JSValue) : PolledSnap :=
  { s with requests := s.requests.map (.overtake (decide (s.status ≠ before))) }

/-- One event. -/
def next (lib : Libraries) (s : PolledSnap) : PollEvent → Option PolledSnap
  | .install => some (s.clicked (s.model.handleInstallEvent lib))
  | .enable => some (s.clicked (s.model.handleEnableEvent lib))
  | .fire =>
      if 0 < s.timers then
        some { s with timers := s.timers - 1, requests := s.requests ++ [.fetch] }
      else none
  | .payload i pkg =>
      match s.requests[i]? with
      | some .fetch =>
          some ((s.finish i (s.model.receive lib pkg.encode)).overtake s.status).synced
      | _ => none
  | .accepted i package message =>
      match s.requests[i]? with
      | some (.save _ _) =>
          some (s.finish i (s.model.receive lib (operationResponse package message))).synced
      | some .destroy => some (s.finish i s.model).synced
      | _ => none
  | .fail i notFound message =>
      match s.requests[i]? with
      | some _ =>
          some { s.finish i (s.model.onError lib notFound message) with
            gone := s.gone || s.model.isGone notFound }
      | none => none

/-- The events, as a machine. -/
def machine (lib : Libraries) : Machine PolledSnap PollEvent := ⟨fun s e => s.next lib e⟩

end PolledSnap

/-- A model that is made of an id is fetched; one that is added from a payload may have a timer. -/
def Origin.start (lib : Libraries) (origin : Origin) : PolledSnap :=
  match origin with
  | fresh _ => { model := origin.model lib, requests := [.fetch], timers := 0, gone := false }
  | added _ =>
      PolledSnap.synced { model := origin.model lib, requests := [], timers := 0, gone := false }

/-! ## The status after an error -/

namespace SnapModel

/-- The status before the most recent `set`; the present one, if there was none. -/
def statusBeforeSet (m : SnapModel) : JSValue := (m.previous .status).getD (m.attributes.get .status)

variable {lib : Libraries} {m : SnapModel}

/-- What an error makes of an attribute that no handler writes. -/
lemma get_onError {k : Attr} (h : k ∉ writtenByHandlers) (hne : k ≠ .message) (notFound : Bool)
    (message : Option String) :
    (m.onError lib notFound message).attributes.get k =
      if m.isGone notFound then m.attributes.get k
      else (m.previous k).getD (m.attributes.get k) := by
  have hprevious : m.rollback message k = m.previous k := Function.update_of_ne hne _ _
  rw [onError]
  split_ifs
  · rfl
  · rw [Model.get_set_of_frame _ _ (frames_handlers lib h), hprevious]

/-- What an error makes of the status. -/
lemma status_onError (notFound : Bool) (message : Option String) :
    (m.onError lib notFound message).attributes.get .status =
      if m.isGone notFound then m.attributes.get .status else m.statusBeforeSet :=
  get_onError (by decide) (by decide) notFound message

/-- Where the snap is gone, nothing is set. -/
lemma onError_of_gone {notFound : Bool} (h : m.isGone notFound = true) (message : Option String) :
    m.onError lib notFound message = m := by
  rw [onError, if_pos h]

lemma status_of_gone {notFound : Bool} (h : m.isGone notFound = true) :
    m.attributes.get .status = InstallState.removing.value :=
  of_decide_eq_true (Bool.and_eq_true_iff.mp h).2

/-- A click that makes no call leaves the model. -/
lemma handleInstallEvent_of_none (h : (m.handleInstallEvent lib).2 = none) :
    (m.handleInstallEvent lib).1 = m := by
  rw [handleInstallEvent] at h ⊢
  split_ifs at h ⊢
  all_goals rfl

lemma handleEnableEvent_of_none (h : (m.handleEnableEvent lib).2 = none) :
    (m.handleEnableEvent lib).1 = m := by
  rw [handleEnableEvent] at h ⊢
  split_ifs at h ⊢
  all_goals rfl

end SnapModel

/-! ## Refreshing -/

namespace PolledSnap

/-- A model in transition is going to be refreshed: a timer runs for it, or a request is on its way,
unless the snap that was being uninstalled has not been found. -/
def Refreshed (s : PolledSnap) : Prop :=
  isTransitional s.status = true → 0 < s.timers ∨ s.requests ≠ [] ∨ s.gone = true

/-- The model is going to be refreshed after the event. -/
def KeepsRefreshed (_ : PolledSnap) (_ : PollEvent) (s' : PolledSnap) : Prop := s'.Refreshed

/-- A request fails that is the last thing on its way for the model (and no uninstalled snap has been
found missing) only where the most recent `set` was made in a state without transition. -/
def FailsRefreshed (s : PolledSnap) (e : PollEvent) (_ : PolledSnap) : Prop :=
  match e with
  | .fail i notFound _ =>
      0 < s.timers ∨ s.requests.eraseIdx i ≠ [] ∨ s.gone = true ∨ s.model.isGone notFound = true ∨
        isTransitional s.model.statusBeforeSet = false
  | _ => True

variable {lib : Libraries} {s s' : PolledSnap}

/-- An answer starts a timer where one is needed. -/
lemma refreshed_synced (s : PolledSnap) : s.synced.Refreshed := by
  rw [synced]
  split_ifs with h
  · exact fun _ => .inl (Nat.succ_pos _)
  · exact fun htrans => absurd htrans h

/-- A click that changes the model makes a request. -/
lemma Refreshed.clicked {r : SnapModel × Option Call} (h : s.Refreshed)
    (hr : r.2 = none → r.1 = s.model) : (s.clicked r).Refreshed := by
  obtain ⟨m, call⟩ := r
  cases call with
  | none =>
      obtain rfl : m = s.model := hr rfl
      exact h
  | some call =>
      cases call <;> exact fun _ => .inr (.inl (List.append_ne_nil_of_right_ne_nil _ nofun))

/-- A failure leaves what else is on its way. -/
lemma refreshed_fail_iff (i : ℕ) (notFound : Bool) (message : Option String) :
    ({ s.finish i (s.model.onError lib notFound message) with
        gone := s.gone || s.model.isGone notFound } : PolledSnap).Refreshed ↔
      0 < s.timers ∨ s.requests.eraseIdx i ≠ [] ∨ s.gone = true ∨ s.model.isGone notFound = true ∨
        isTransitional s.model.statusBeforeSet = false := by
  simp only [Refreshed, status, finish, SnapModel.status_onError, Bool.or_eq_true]
  cases s.model.isGone notFound with
  | true => exact iff_of_true (fun _ => .inr (.inr (.inr rfl))) (.inr (.inr (.inr (.inl rfl))))
  | false =>
      simp only [Bool.false_eq_true, if_false, or_false, false_or]
      cases isTransitional s.model.statusBeforeSet <;> simp

/-- An event keeps a model refreshed, but for a failure. -/
lemma refreshed_next_iff (h : s.Refreshed) (e : PollEvent) (hnext : s.next lib e = some s') :
    s'.Refreshed ↔ FailsRefreshed s e s' := by
  cases e with
  | install =>
      cases hnext
      exact iff_of_true (h.clicked SnapModel.handleInstallEvent_of_none) trivial
  | enable =>
      cases hnext
      exact iff_of_true (h.clicked SnapModel.handleEnableEvent_of_none) trivial
  | fire =>
      rw [next] at hnext
      split_ifs at hnext
      cases hnext
      exact iff_of_true (fun _ => .inr (.inl (List.append_ne_nil_of_right_ne_nil _ nofun))) trivial
  | payload i pkg =>
      rw [next] at hnext
      split at hnext
      · cases hnext
        exact iff_of_true (refreshed_synced _) trivial
      · cases hnext
  | accepted i package message =>
      rw [next] at hnext
      split at hnext
      · cases hnext
        exact iff_of_true (refreshed_synced _) trivial
      · cases hnext
        exact iff_of_true (refreshed_synced _) trivial
      · cases hnext
  | fail i notFound message =>
      rw [next] at hnext
      split at hnext
      · cases hnext
        exact refreshed_fail_iff i notFound message
      · cases hnext

end PolledSnap

/-- **When a model in transition is refreshed.**  However a model is made, it is going to be refreshed
at first, if it is in transition, and it is so after every event of a run exactly if each request that
fails is not the last thing on its way for the model, or the most recent `set` was made in a state
without transition, or a snap that was being uninstalled has not been found. -/
theorem refreshed_iff (lib : Libraries) (origin : Origin) (es : List PollEvent) :
    (origin.start lib).Refreshed ∧
      ((PolledSnap.machine lib).Along PolledSnap.KeepsRefreshed (origin.start lib) es ↔
        (PolledSnap.machine lib).Along PolledSnap.FailsRefreshed (origin.start lib) es) := by
  have hstart : (origin.start lib).Refreshed := by
    cases origin with
    | fresh id => exact fun _ => .inr (.inl nofun)
    | added pkg => exact PolledSnap.refreshed_synced _
  refine ⟨hstart, Machine.along_congr ?_ ?_ hstart es⟩
  · exact fun s e s' h hnext => PolledSnap.refreshed_next_iff h e hnext
  · exact fun s e s' _ _ hkeeps => hkeeps

/-- The payload of `hello-world` while it is being installed. -/
def installing (summary : String) : SnapPkg :=
  { describe (helloWorld "available") with
    state := { status := InstallState.installing.text, taskSummary := summary, localSize := 0 } }

/-- `hello-world` is being installed, and its first poll fails: there is no other. -/
theorem poll_lost :
    ¬ ∀ (lib : Libraries) (origin : Origin) (es : List PollEvent) (s : PolledSnap),
      (PolledSnap.machine lib).exec (origin.start lib) es = some s → s.Refreshed := by
  intro h
  have hrefreshed := h plainLibraries (.added (installing "Download")) [.fire, .fail 0 false none] _ rfl
  exact absurd (hrefreshed (by decide)) (by decide)

/-! ## What a failure changes -/

/-- It is not a save of a snap that was being removed. -/
def Request.FromStable : Request → Prop
  | save before _ => before ≠ InstallState.removing.value
  | _ => True

lemma Request.FromStable.overtake {r : Request} (h : r.FromStable) (changed : Bool) :
    (r.overtake changed).FromStable := by
  cases r <;> exact h

namespace SnapModel

/-- What there was before the most recent `set` is as it was, but for the message. -/
def OnlyGained (m : SnapModel) : Prop :=
  ∀ k, k ≠ .message → ∀ v, m.previous k = some v → m.attributes.get k = v

variable {lib : Libraries} {m : SnapModel}

/-- An error leaves all but the message exactly if the most recent `set` has only added to it. -/
lemma onError_unchanged_iff {notFound : Bool} (hfound : m.isGone notFound = false)
    (message : Option String) :
    (∀ k, k ≠ .message → (m.onError lib notFound message).attributes.get k = m.attributes.get k) ↔
      m.OnlyGained := by
  have hkeys : ∀ c ∈ handlers lib, c.key ≠ .message := fun c hc =>
    (by decide : ∀ k ∈ listenedAttributes, k ≠ .message) c.key (key_mem_of_handlers hc)
  have hset := Model.set_unchanged_iff (K := fun k => k ≠ .message) m (m.rollback message)
    hkeys fun c hc => frames_handlers lib (key_not_mem_written hc)
  rw [onError, hfound, if_neg Bool.false_ne_true, hset, OnlyGained]
  refine forall_congr' fun k => imp_congr_right fun hk => ?_
  rw [rollback, Function.update_of_ne hk]

end SnapModel

namespace PolledSnap

/-- A failed fetch leaves all attributes but the message; a failed save leaves the status that the
model had before it, unless a payload has changed it since. -/
def FailsCleanly (s : PolledSnap) (e : PollEvent) (s' : PolledSnap) : Prop :=
  match e with
  | .fail i _ _ =>
      match s.requests[i]? with
      | some .fetch => ∀ k, k ≠ .message → s'.model.attributes.get k = s.model.attributes.get k
      | some (.save before overtaken) => overtaken = true ∨ s'.status = before
      | _ => True
  | _ => True

/-- A fetch fails where the most recent `set` has only added to the attributes, or where the snap is
gone; a save fails, unless it is overtaken, where the most recent `set` was made in the status of
before the save, and not because the snap is gone. -/
def FailsUndisturbed (s : PolledSnap) (e : PollEvent) (_ : PolledSnap) : Prop :=
  match e with
  | .fail i notFound _ =>
      match s.requests[i]? with
      | some .fetch => s.model.isGone notFound = true ∨ s.model.OnlyGained
      | some (.save before overtaken) =>
          overtaken = true ∨ s.model.isGone notFound = false ∧ s.model.statusBeforeSet = before
      | _ => True
  | _ => True

/-- No save on its way was made of a snap that was being removed. -/
def SavesStable (s : PolledSnap) : Prop := ∀ r ∈ s.requests, r.FromStable

variable {lib : Libraries} {s s' : PolledSnap}

@[simp] lemma requests_synced (s : PolledSnap) : s.synced.requests = s.requests := by
  rw [synced]
  split_ifs <;> rfl

lemma SavesStable.clicked {r : SnapModel × Option Call} (h : s.SavesStable)
    (hr : r.2 = some .save → s.status ≠ InstallState.removing.value) : (s.clicked r).SavesStable := by
  obtain ⟨m, call⟩ := r
  cases call with
  | none => exact h
  | some call =>
      cases call with
      | save => exact List.forall_mem_append.mpr ⟨h, List.forall_mem_singleton.mpr (hr rfl)⟩
      | destroy => exact List.forall_mem_append.mpr ⟨h, List.forall_mem_singleton.mpr trivial⟩

lemma SavesStable.finish (h : s.SavesStable) (i : ℕ) (m : SnapModel) : (s.finish i m).SavesStable :=
  fun r hr => h r (List.mem_of_mem_eraseIdx hr)

lemma SavesStable.overtake (h : s.SavesStable) (before : JSValue) :
    (s.overtake before).SavesStable := by
  refine List.forall_mem_map.mpr fun r hr => ?_
  exact (h r hr).overtake _

lemma SavesStable.synced (h : s.SavesStable) : s.synced.SavesStable := by
  rw [SavesStable, requests_synced]
  exact h

/-- A click saves in a state that is not that of a removal. -/
lemma status_of_install (hsave : (s.model.handleInstallEvent lib).2 = some .save) :
    s.status ≠ InstallState.removing.value := by
  rw [SnapModel.handleInstallEvent] at hsave
  rw [status]
  split_ifs at hsave with hcore hinstalled hremoved hinstalling
  · cases hsave
  · rw [hremoved]
    exact (by decide : InstallState.removed.value ≠ InstallState.removing.value)
  · rw [hinstalling]
    exact (by decide : InstallState.installing.value ≠ InstallState.removing.value)

lemma status_of_enable (hsave : (s.model.handleEnableEvent lib).2 = some .save) :
    s.status ≠ InstallState.removing.value := by
  rw [SnapModel.handleEnableEvent] at hsave
  rw [status]
  split_ifs at hsave with hinst hinstalled hactive
  · rw [hinstalled]
    exact (by decide : InstallState.installed.value ≠ InstallState.removing.value)
  · rw [hactive]
    exact (by decide : InstallState.active.value ≠ InstallState.removing.value)

lemma savesStable_next (h : s.SavesStable) (e : PollEvent) (hnext : s.next lib e = some s') :
    s'.SavesStable := by
  cases e with
  | install =>
      cases hnext
      exact h.clicked status_of_install
  | enable =>
      cases hnext
      exact h.clicked status_of_enable
  | fire =>
      rw [next] at hnext
      split_ifs at hnext
      cases hnext
      exact List.forall_mem_append.mpr ⟨h, List.forall_mem_singleton.mpr trivial⟩
  | payload i pkg =>
      rw [next] at hnext
      split at hnext
      · cases hnext
        exact ((h.finish i _).overtake _).synced
      · cases hnext
  | accepted i package message =>
      rw [next] at hnext
      split at hnext
      · cases hnext
        exact (h.finish i _).synced
      · cases hnext
        exact (h.finish i _).synced
      · cases hnext
  | fail i notFound message =>
      rw [next] at hnext
      split at hnext
      · cases hnext
        exact h.finish i (s.model.onError lib notFound message)
      · cases hnext

/-- A failure. -/
lemma failsCleanly_iff (h : s.SavesStable) (e : PollEvent) (hnext : s.next lib e = some s') :
    FailsCleanly s e s' ↔ FailsUndisturbed s e s' := by
  cases e with
  | fail i notFound message =>
      rw [next] at hnext
      rw [FailsCleanly, FailsUndisturbed]
      cases hr : s.requests[i]? with
      | none => exact Iff.rfl
      | some r =>
          rw [hr] at hnext
          cases hnext
          cases r with
          | fetch =>
              cases hgone : s.model.isGone notFound with
              | true =>
                  refine iff_of_true (fun k _ => ?_) (.inl rfl)
                  exact congrArg (·.attributes.get k) (SnapModel.onError_of_gone hgone message)
              | false =>
                  exact (SnapModel.onError_unchanged_iff hgone message).trans
                    (or_iff_right Bool.false_ne_true).symm
          | save before overtaken =>
              have hstable : before ≠ InstallState.removing.value := h _ (List.mem_of_getElem? hr)
              refine or_congr_right ?_
              refine (congrArg (· = before) (SnapModel.status_onError notFound message)).to_iff.trans ?_
              cases hgone : s.model.isGone notFound with
              | true =>
                  refine iff_of_false (fun heq => hstable (heq.symm.trans ?_))
                    fun h => Bool.false_ne_true h.1.symm
                  exact SnapModel.status_of_gone hgone
              | false => exact (and_iff_right rfl).symm
          | destroy => exact Iff.rfl
  | install | enable | fire | payload i pkg | accepted i package message => exact Iff.rfl

end PolledSnap

/-- **What a failure changes.**  However a model is made, in every run each failed fetch leaves all
attributes but the message, and each failed save the status of before it (unless a payload has
changed that), exactly if each fetch fails where the most recent `set` has only added to the
attributes, or the snap is gone, and each save where the most recent `set` was made in the status of
before the save. -/
theorem fails_cleanly_iff (lib : Libraries) (origin : Origin) (es : List PollEvent) :
    (PolledSnap.machine lib).Along PolledSnap.FailsCleanly (origin.start lib) es ↔
      (PolledSnap.machine lib).Along PolledSnap.FailsUndisturbed (origin.start lib) es := by
  have hstart : (origin.start lib).SavesStable := by
    cases origin with
    | fresh id => exact List.forall_mem_singleton.mpr trivial
    | added pkg => exact PolledSnap.SavesStable.synced nofun
  refine Machine.along_congr ?_ ?_ hstart es
  · exact fun s e s' h hnext => PolledSnap.failsCleanly_iff h e hnext
  · exact fun s e s' h hnext _ => PolledSnap.savesStable_next h e hnext

/-- `hello-world` is being installed; a first poll has news of it, and a second fails: the news are
taken back. -/
theorem summary_set_back :
    ¬ ∀ (lib : Libraries) (origin : Origin) (es : List PollEvent),
      (PolledSnap.machine lib).Along PolledSnap.FailsCleanly (origin.start lib) es := by
  intro h
  have hclean := (h plainLibraries (.added (installing "Download"))
    ([.fire, .payload 0 (installing "Mount"), .fire] ++ [.fail 0 false none])).last rfl rfl
  exact absurd (hclean .taskSummary (by decide)) (by decide)

end Client

end Snapweb
