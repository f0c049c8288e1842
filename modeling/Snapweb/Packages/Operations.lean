import Snapweb.StateTracker.StateTracker

/-!
# The package operations

The part of `converge.go` that starts and aborts changes: `installPackage`, `removePackage`,
`enable`, `disable`, `abortRunningOperation`.  Each looks the snap up, calls snapd, and tells the
tracker.  A result holds how the operation ended, the changing calls it made to snapd, and the
tracker it leaves.

`enable` and `disable` tell the tracker only when snapd accepted the operation; `installPackage`
and `removePackage` tell it in any case.

* `failed_operation_keeps_tracker_iff` — an operation that fails leaves the tracker as it was,
  except where `installPackage` or `removePackage` stores an entry for a change that snapd refused.
* `accepted_operation_is_tracked` — after an operation that snapd accepted, the snap is tracked
  under the new change, or under the one that was running already; abort and progress go by it.
-/

namespace Snapweb

/-- What an operation leaves behind. -/
structure Result where
  outcome : Outcome
  calls : List SnapdCall
  tracker : StateTracker

/-- Look a snap up: among the installed ones, and in the store as a fallback. -/
def getSnap (c : SnapdClient) (name : String) : Except Error (Option Snap) :=
  match c.snap name with
  | .ok snap => .ok snap
  | .error _ =>
      match c.findOne name with
      | .error err => .error err
      | .ok none => .error "snap could not be retrieved"
      | .ok (some snap) => .ok (some snap)

/-- `installPackage` and `removePackage`: call snapd, and tell the tracker whatever it says. -/
def startAndTrack (call : SnapdCall) (start : String × Option Error)
    (track : StateTracker → String → Snap → StateTracker)
    (c : SnapdClient) (name : String) (t : StateTracker) : Result :=
  match getSnap c name with
  | .error err => { outcome := .error err, calls := [], tracker := t }
  | .ok none => { outcome := .panic, calls := [call], tracker := t }
  | .ok (some snap) =>
      { outcome := .ofError start.2, calls := [call], tracker := track t start.1 snap }

/-- Remove a snap. -/
def removePackage (c : SnapdClient) (name : String) (t : StateTracker) : Result :=
  startAndTrack (.remove name) (c.remove name) StateTracker.trackUninstall c name t

/-- Install a snap. -/
def installPackage (c : SnapdClient) (name : String) (t : StateTracker) : Result :=
  startAndTrack (.install name) (c.install name) StateTracker.trackInstall c name t

/-- Abort the change that the snap is tracked for. -/
def abortRunningOperation (c : SnapdClient) (name : String) (t : StateTracker) : Result :=
  match getSnap c name with
  | .error err => { outcome := .error err, calls := [], tracker := t }
  | .ok none => { outcome := .error "Invalid snap name", calls := [], tracker := t }
  | .ok (some snap) =>
      match t.isTrackedForRunningOperation snap with
      | (false, _) =>
          { outcome := .error ("No operation to abort for snap " ++ name), calls := [], tracker := t }
      | (true, changeID) =>
          match c.abort changeID with
          | none => { outcome := .ok, calls := [.abort changeID], tracker := t.cancelTrackingFor name }
          | some err => { outcome := .error err, calls := [.abort changeID], tracker := t }

/-- `enable` and `disable`: check the snap's status, call snapd, and tell the tracker if snapd
accepted. -/
def switchAndTrack (required : Status) (refusal : Error) (call : SnapdCall)
    (start : String × Option Error) (track : StateTracker → String → Snap → StateTracker)
    (c : SnapdClient) (name : String) (t : StateTracker) : Result :=
  match getSnap c name with
  | .error err => { outcome := .error err, calls := [], tracker := t }
  | .ok none => { outcome := .error ("Snap not found " ++ name), calls := [], tracker := t }
  | .ok (some snap) =>
      if snap.status ≠ required.text then { outcome := .error refusal, calls := [], tracker := t }
      else
        match start.2 with
        | none => { outcome := .ok, calls := [call], tracker := track t start.1 snap }
        | some err => { outcome := .error err, calls := [call], tracker := t }

/-- Enable a snap that is installed and disabled. -/
def enable (c : SnapdClient) (name : String) (t : StateTracker) : Result :=
  switchAndTrack .installed "Snap not installed and disabled" (.enable name) (c.enable name)
    StateTracker.trackEnable c name t

/-- Disable a snap that is installed and enabled. -/
def disable (c : SnapdClient) (name : String) (t : StateTracker) : Result :=
  switchAndTrack .active "Snap not installed and enabled" (.disable name) (c.disable name)
    StateTracker.trackDisable c name t

/-- What a request asks the handler to do: start one of the tracked operations, or abort. -/
inductive PackageOp
  | start (op : Operation)
  | abort
  deriving DecidableEq, Repr

/-- The function of an operation. -/
def PackageOp.run : PackageOp → SnapdClient → String → StateTracker → Result
  | .start .install => installPackage
  | .start .uninstall => removePackage
  | .start .enable => enable
  | .start .disable => disable
  | .abort => abortRunningOperation

/-- snapd's answer to an operation's call. -/
def SnapdClient.start (c : SnapdClient) : Operation → String → String × Option Error
  | .install => c.install
  | .uninstall => c.remove
  | .enable => c.enable
  | .disable => c.disable

/-- Does the operation tell the tracker of a change that snapd refused? -/
def Operation.tracksRefused : Operation → Bool
  | .install => true
  | .uninstall => true
  | .enable => false
  | .disable => false

/-- `enable` and `disable` look at the status of the record first. -/
def Operation.admits : Operation → Snap → Bool
  | install, _ => true
  | uninstall, _ => true
  | enable, snap => snap.status == Status.installed.text
  | disable, snap => snap.status == Status.active.text

/-! ## The tracker that an operation leaves -/

/-- Without a record, no operation touches the tracker. -/
lemma run_tracker_of_not_found {c : SnapdClient} {name : String}
    (hno : ∀ snap, getSnap c name ≠ .ok (some snap)) (op : PackageOp) (t : StateTracker) :
    (op.run c name t).tracker = t := by
  rcases hsnap : getSnap c name with err | (_ | snap)
  · rcases op with (_ | _ | _ | _) | _ <;>
      simp only [PackageOp.run, installPackage, removePackage, enable, disable,
        abortRunningOperation, startAndTrack, switchAndTrack, hsnap]
  · rcases op with (_ | _ | _ | _) | _ <;>
      simp only [PackageOp.run, installPackage, removePackage, enable, disable,
        abortRunningOperation, startAndTrack, switchAndTrack, hsnap]
  · exact absurd hsnap (hno snap)

/-- What the function of an operation leaves of the tracker, once the snap is found. -/
lemma run_start_tracker {c : SnapdClient} {name : String} {snap : Snap}
    (hsnap : getSnap c name = .ok (some snap)) (op : Operation) (t : StateTracker) :
    ((PackageOp.start op).run c name t).tracker =
      if op.admits snap = true ∧ ((c.start op name).2 = none ∨ op.tracksRefused = true) then
        StateTracker.track op.precondition op.status t (c.start op name).1 snap
      else t := by
  have hswitch : ∀ (required : Status) (refusal : Error) (call : SnapdCall)
      (start : String × Option Error) (track : StateTracker → String → Snap → StateTracker),
      (switchAndTrack required refusal call start track c name t).tracker =
        if (snap.status == required.text) = true ∧ (start.2 = none ∨ false = true) then
          track t start.1 snap
        else t := by
    intro required refusal call start track
    simp only [switchAndTrack, hsnap]
    by_cases hstatus : snap.status = required.text
    · rcases hstart : start.2 with _ | err <;> simp [hstatus]
    · simp [hstatus]
  rw [← StateTracker.trackMethod_eq]
  cases op with
  | install =>
      simp [PackageOp.run, installPackage, startAndTrack, hsnap, Operation.admits,
        Operation.tracksRefused, SnapdClient.start, StateTracker.trackMethod]
  | uninstall =>
      simp [PackageOp.run, removePackage, startAndTrack, hsnap, Operation.admits,
        Operation.tracksRefused, SnapdClient.start, StateTracker.trackMethod]
  | enable => exact hswitch .installed _ _ (c.enable name) StateTracker.trackEnable
  | disable => exact hswitch .active _ _ (c.disable name) StateTracker.trackDisable

/-- An abort cancels the entry, or leaves the tracker. -/
lemma abortRunningOperation_tracker {c : SnapdClient} {name : String} {snap : Snap}
    (hsnap : getSnap c name = .ok (some snap)) (t : StateTracker) :
    (abortRunningOperation c name t).tracker = t ∨
      (abortRunningOperation c name t).tracker = t.cancelTrackingFor name := by
  rcases htr : t.isTrackedForRunningOperation snap with ⟨_ | _, changeID⟩
  · exact .inl (by simp only [abortRunningOperation, hsnap, htr])
  · rcases habort : c.abort changeID with _ | err
    · exact .inr (by simp only [abortRunningOperation, hsnap, htr, habort])
    · exact .inl (by simp only [abortRunningOperation, hsnap, htr, habort])

/-- What an operation can do to the tracker: nothing, one `Track` call, or a cancellation. -/
lemma track_of_run (op : PackageOp) (c : SnapdClient) (name : String) (t : StateTracker) :
    (op.run c name t).tracker = t ∨
      (∃ (o : Operation) (changeID : String) (snap : Snap),
        (op.run c name t).tracker = StateTracker.trackMethod o t changeID snap) ∨
      (op.run c name t).tracker = t.cancelTrackingFor name := by
  by_cases hfound : ∃ snap, getSnap c name = .ok (some snap)
  · obtain ⟨snap, hsnap⟩ := hfound
    cases op with
    | start o =>
        rw [run_start_tracker hsnap]
        split_ifs
        · exact .inr (.inl ⟨o, (c.start o name).1, snap, by rw [StateTracker.trackMethod_eq]⟩)
        · exact .inl rfl
    | abort => exact (abortRunningOperation_tracker hsnap t).imp_right .inr
  · exact .inl (run_tracker_of_not_found (fun snap hsnap => hfound ⟨snap, hsnap⟩) op t)

/-! ## Operations that fail -/

/-- The branch that goes wrong: snapd refuses an installation or a removal, and the tracker has no
reason of its own to ignore the call. -/
def StoresRefused (op : PackageOp) (c : SnapdClient) (name : String) (t : StateTracker) : Prop :=
  match op with
  | .start op => op.tracksRefused = true ∧ (c.start op name).2.isSome = true ∧
      ∃ snap, getSnap c name = .ok (some snap) ∧ op.precondition snap = true ∧
        (t.isTrackedForRunningOperation snap).1 = false
  | .abort => False

/-- An accepted `Track` call changes the tracker: the snap has a running operation afterwards. -/
lemma track_ne_of_accepted {op : Operation} {t : StateTracker} {changeID : String} {snap : Snap}
    (hpre : op.precondition snap = true) (hrun : (t.isTrackedForRunningOperation snap).1 = false)
    (hleaves : hasOperationCompleted op.status snap = false) :
    StateTracker.track op.precondition op.status t changeID snap ≠ t := by
  rw [StateTracker.track_of_accepted hpre hrun]
  intro heq
  have hlookup := StateTracker.lookup_trackOperation_self t changeID snap.name op.status
  rw [heq] at hlookup
  have := (StateTracker.isTracked_fst t snap).mpr ⟨_, hlookup, hleaves⟩
  rw [hrun] at this
  cases this

/-- A record that meets the precondition of an installation or a removal leaves it unfinished. -/
lemma hasOperationCompleted_of_tracksRefused {op : Operation} {snap : Snap}
    (h : op.tracksRefused = true) (hpre : op.precondition snap = true) :
    hasOperationCompleted op.status snap = false := by
  cases op with
  | install => simpa [Operation.precondition, Operation.status, hasOperationCompleted] using hpre
  | uninstall => simpa [Operation.precondition, Operation.status, hasOperationCompleted] using hpre
  | enable => cases h
  | disable => cases h

/-- `startAndTrack`, when it fails: the tracker is as it was unless the refused change is stored. -/
lemma startAndTrack_failed {op : Operation} (hop : op.tracksRefused = true) (call : SnapdCall)
    (start : String × Option Error) (c : SnapdClient) (name : String) (t : StateTracker) :
    ((∃ e, (startAndTrack call start (StateTracker.trackMethod op) c name t).outcome = .error e) →
        (startAndTrack call start (StateTracker.trackMethod op) c name t).tracker = t) ↔
      ¬ (start.2.isSome = true ∧ ∃ snap, getSnap c name = .ok (some snap) ∧
        op.precondition snap = true ∧ (t.isTrackedForRunningOperation snap).1 = false) := by
  rw [startAndTrack, StateTracker.trackMethod_eq]
  rcases hsnap : getSnap c name with err | (_ | snap)
  · simp
  · simp
  · rcases hstart : start.2 with _ | e
    · simp [Outcome.ofError]
    · simp only [Outcome.ofError, Outcome.error.injEq, exists_eq', forall_const, Option.isSome_some,
        Except.ok.injEq, Option.some.injEq, true_and]
      constructor
      · rintro hkeep ⟨snap', rfl, hpre, hrun⟩
        exact track_ne_of_accepted hpre hrun (hasOperationCompleted_of_tracksRefused hop hpre) hkeep
      · intro hno
        refine StateTracker.track_of_not_accepted fun hpre => ?_
        by_contra hrun
        exact hno ⟨snap, rfl, hpre, by simpa using hrun⟩

/-- `switchAndTrack` leaves the tracker as it was when it fails. -/
lemma switchAndTrack_failed (required : Status) (refusal : Error) (call : SnapdCall)
    (start : String × Option Error) (track : StateTracker → String → Snap → StateTracker)
    (c : SnapdClient) (name : String) (t : StateTracker) :
    (∃ e, (switchAndTrack required refusal call start track c name t).outcome = .error e) →
      (switchAndTrack required refusal call start track c name t).tracker = t := by
  rw [switchAndTrack]
  rcases getSnap c name with err | (_ | snap)
  · exact fun _ => rfl
  · exact fun _ => rfl
  · dsimp only
    split_ifs
    · exact fun _ => rfl
    · cases start.2 with
      | none => rintro ⟨e, h⟩; cases h
      | some err => exact fun _ => rfl

/-- `abortRunningOperation` leaves the tracker as it was when it fails. -/
lemma abortRunningOperation_failed (c : SnapdClient) (name : String) (t : StateTracker) :
    (∃ e, (abortRunningOperation c name t).outcome = .error e) →
      (abortRunningOperation c name t).tracker = t := by
  rw [abortRunningOperation]
  rcases getSnap c name with err | (_ | snap)
  · exact fun _ => rfl
  · exact fun _ => rfl
  · dsimp only
    rcases t.isTrackedForRunningOperation snap with ⟨_ | _, changeID⟩
    · exact fun _ => rfl
    · dsimp only
      cases c.abort changeID with
      | none => rintro ⟨e, h⟩; cases h
      | some err => exact fun _ => rfl

/-- **Failed operations.**  Whatever the tracker holds and whatever snapd answers, an operation
that returns an error leaves the tracked entries exactly as they were, if and only if it is not an
installation or removal that snapd refused and that the tracker stores all the same. -/
theorem failed_operation_keeps_tracker_iff (op : PackageOp) (c : SnapdClient) (name : String)
    (t : StateTracker) :
    ((∃ e, (op.run c name t).outcome = .error e) → (op.run c name t).tracker = t) ↔
      ¬ StoresRefused op c name t := by
  cases op with
  | abort => exact iff_of_true (abortRunningOperation_failed c name t) id
  | start op =>
      have hrefused : StoresRefused (.start op) c name t ↔ op.tracksRefused = true ∧ _ := Iff.rfl
      rw [hrefused]
      cases op with
      | install =>
          rw [and_iff_right (by rfl)]
          exact startAndTrack_failed (rfl : Operation.install.tracksRefused = true) (.install name)
            (c.install name) c name t
      | uninstall =>
          rw [and_iff_right (by rfl)]
          exact startAndTrack_failed (rfl : Operation.uninstall.tracksRefused = true) (.remove name)
            (c.remove name) c name t
      | enable => exact iff_of_true (switchAndTrack_failed _ _ _ _ _ c name t) fun h => by cases h.1
      | disable => exact iff_of_true (switchAndTrack_failed _ _ _ _ _ c name t) fun h => by cases h.1

/-- snapd refuses to install `hello-world`, and the snap is tracked as being installed. -/
theorem refused_install_is_tracked :
    ¬ ∀ (op : PackageOp) (c : SnapdClient) (name : String) (t : StateTracker),
      (∃ e, (op.run c name t).outcome = .error e) → (op.run c name t).tracker = t := by
  intro h
  let snap : Snap := { name := "hello-world", status := clientStatusAvailable }
  have hkeep := h (.start .install)
    { SnapdClient.knowing snap "" with install := fun _ => ("", some "cannot install") }
    "hello-world" .new ⟨_, rfl⟩
  have hlookup := congrArg (fun t => t.lookup "hello-world") hkeep
  exact absurd hlookup (by decide)

/-! ## Operations that snapd accepts -/

/-- The snap is one that the operation is for, as the handler or its users see to. -/
def Operation.startable : Operation → Snap → Bool
  | install, snap => !isInstalled snap
  | uninstall, snap => isInstalled snap
  | enable, snap => snap.status == Status.installed.text
  | disable, snap => snap.status == Status.active.text

/-- A snap that the operation is for meets the tracker's precondition, and its record leaves the
operation unfinished. -/
lemma Operation.startable_spec {op : Operation} {snap : Snap} (h : op.startable snap = true) :
    op.precondition snap = true ∧ hasOperationCompleted op.status snap = false := by
  cases op with
  | install => exact ⟨h, by simpa [startable, status, hasOperationCompleted] using h⟩
  | uninstall => exact ⟨h, by simpa [startable, status, hasOperationCompleted] using h⟩
  | enable =>
      have hs : snap.status = "installed" := by simpa [startable, Status.text] using h
      refine ⟨?_, ?_⟩ <;> simp only [precondition, status, hasOperationCompleted, isInstalled, hs] <;>
        decide
  | disable =>
      have hs : snap.status = "active" := by simpa [startable, Status.text] using h
      refine ⟨?_, ?_⟩ <;> simp only [precondition, status, hasOperationCompleted, isInstalled, hs] <;>
        decide

/-- An operation that snapd accepts returns no error and makes one `Track` call. -/
lemma start_accepted {op : Operation} {c : SnapdClient} {name : String} {t : StateTracker}
    {snap : Snap} {changeID : String} (hsnap : getSnap c name = .ok (some snap))
    (hpre : op.startable snap = true) (hacc : c.start op name = (changeID, none)) :
    ((PackageOp.start op).run c name t).outcome = .ok ∧
      ((PackageOp.start op).run c name t).tracker = StateTracker.trackMethod op t changeID snap := by
  cases op with
  | install =>
      have hacc : c.install name = (changeID, none) := hacc
      simp [PackageOp.run, installPackage, startAndTrack, hsnap, hacc, Outcome.ofError,
        StateTracker.trackMethod]
  | uninstall =>
      have hacc : c.remove name = (changeID, none) := hacc
      simp [PackageOp.run, removePackage, startAndTrack, hsnap, hacc, Outcome.ofError,
        StateTracker.trackMethod]
  | enable =>
      have hacc : c.enable name = (changeID, none) := hacc
      have hs : snap.status = Status.installed.text := by simpa [Operation.startable] using hpre
      simp [PackageOp.run, enable, switchAndTrack, hsnap, hacc, hs, StateTracker.trackMethod]
  | disable =>
      have hacc : c.disable name = (changeID, none) := hacc
      have hs : snap.status = Status.active.text := by simpa [Operation.startable] using hpre
      simp [PackageOp.run, disable, switchAndTrack, hsnap, hacc, hs, StateTracker.trackMethod]

/-- An abort asks snapd to abort the change in the entry. -/
lemma abort_calls {c : SnapdClient} {name : String} {t : StateTracker} {snap : Snap} {changeID : String}
    (hsnap : getSnap c name = .ok (some snap))
    (htr : t.isTrackedForRunningOperation snap = (true, changeID)) :
    (abortRunningOperation c name t).calls = [.abort changeID] := by
  simp only [abortRunningOperation, hsnap, htr]
  cases c.abort changeID <;> rfl

/-- **Accepted operations.**  Let snapd accept an operation on a snap that it is for, as the change
`changeID`.  Then the operation returns no error, and the snap's record is tracked as running:
under the new change if the record showed no unfinished operation before, and otherwise under the
entry that was there, which is kept.  An abort that finds the same record asks snapd to abort that
very change, and `State` reads its progress from it. -/
theorem accepted_operation_is_tracked {op : Operation} {c : SnapdClient} {name : String}
    {t : StateTracker} {snap : Snap} {changeID : String}
    (hsnap : getSnap c name = .ok (some snap)) (hpre : op.startable snap = true)
    (hacc : c.start op name = (changeID, none)) :
    ((PackageOp.start op).run c name t).outcome = .ok ∧
      ∃ running, ((PackageOp.start op).run c name t).tracker.lookup snap.name = some running ∧
        ((t.isTrackedForRunningOperation snap).1 = false →
          running = { status := op.status, changeID := changeID }) ∧
        ((t.isTrackedForRunningOperation snap).1 = true → t.lookup snap.name = some running) ∧
        ((PackageOp.start op).run c name t).tracker.isTrackedForRunningOperation snap
          = (true, running.changeID) ∧
        ∀ c' : SnapdClient, getSnap c' name = .ok (some snap) →
          (abortRunningOperation c' name ((PackageOp.start op).run c name t).tracker).calls
              = [.abort running.changeID] ∧
            ∀ change, c'.change running.changeID = .ok (some change) →
              (((PackageOp.start op).run c name t).tracker.state (some c') snap).1
                = scanTasks running change.tasks := by
  obtain ⟨hok, htracker⟩ := start_accepted (t := t) hsnap hpre hacc
  obtain ⟨hprecond, hleaves⟩ := Operation.startable_spec hpre
  refine ⟨hok, ?_⟩
  rw [htracker, StateTracker.trackMethod_eq]
  -- what the tracker holds for the snap is running for this record, in both cases
  obtain ⟨running, hlookup, hrunning, hnew, hold⟩ : ∃ running,
      (StateTracker.track op.precondition op.status t changeID snap).lookup snap.name = some running ∧
      hasOperationCompleted running.status snap = false ∧
      ((t.isTrackedForRunningOperation snap).1 = false →
        running = { status := op.status, changeID := changeID }) ∧
      ((t.isTrackedForRunningOperation snap).1 = true → t.lookup snap.name = some running) := by
    by_cases hrun : (t.isTrackedForRunningOperation snap).1 = true
    · obtain ⟨e, he, hne⟩ := (StateTracker.isTracked_fst t snap).mp hrun
      rw [StateTracker.track_of_not_accepted fun _ => hrun]
      exact ⟨e, he, hne, fun h => absurd hrun (by simp [h]), fun _ => he⟩
    · have hrun : (t.isTrackedForRunningOperation snap).1 = false := by simpa using hrun
      rw [StateTracker.track_of_accepted hprecond hrun]
      exact ⟨_, StateTracker.lookup_trackOperation_self _ _ _ _, hleaves, fun _ => rfl,
        fun h => absurd h (by simp [hrun])⟩
  have htr : (StateTracker.track op.precondition op.status t changeID snap).isTrackedForRunningOperation
      snap = (true, running.changeID) := by
    rw [StateTracker.isTracked_of_lookup hlookup, hrunning]
    rfl
  exact ⟨running, hlookup, hnew, hold, htr, fun c' hc' =>
    ⟨abort_calls hc' htr, fun change hchange => StateTracker.state_progress hlookup hrunning hchange⟩⟩

/-- A first installation, accepted as change `1`, is tracked under that change. -/
theorem accepted_install_is_tracked :
    (installPackage (.knowing { name := "hello-world", status := clientStatusAvailable } "1")
      "hello-world" .new).tracker.isTrackedForRunningOperation
        { name := "hello-world", status := clientStatusAvailable } = (true, "1") := by
  let snap : Snap := { name := "hello-world", status := clientStatusAvailable }
  have hsnap : getSnap (.knowing snap "1") "hello-world" = .ok (some snap) := rfl
  have hpre : Operation.install.startable snap = true := by decide
  have hacc : (SnapdClient.knowing snap "1").start .install "hello-world" = ("1", none) := rfl
  obtain ⟨-, running, -, hnew, -, htr, -⟩ := accepted_operation_is_tracked (t := .new) hsnap hpre hacc
  rw [hnew (by decide)] at htr
  exact htr

/-- Change `1` installs `hello-world` and fails in snapd; the snap is installed again as change
`2` before the entry is gone, and is still tracked under change `1`. -/
theorem retried_install_is_not_tracked :
    ¬ ∀ (t : StateTracker) (c : SnapdClient) (name : String) (snap : Snap) (changeID : String),
      t.Reachable → getSnap c name = .ok (some snap) → isInstalled snap = false →
      c.install name = (changeID, none) →
      (installPackage c name t).tracker.isTrackedForRunningOperation snap = (true, changeID) := by
  intro h
  let snap : Snap := { name := "hello-world", status := clientStatusAvailable }
  have htr := h (StateTracker.new.trackInstall "1" snap) (.knowing snap "2") "hello-world" snap "2"
    (.track .install "1" snap .new) rfl (by decide) rfl
  exact absurd htr (by decide)

end Snapweb
