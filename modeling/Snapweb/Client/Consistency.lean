import Snapweb.Client.SnapEvents
import Snapweb.Core.Machine

/-!
# Status and `isInstalled`

The client's model has the status of a snap, and whether it is installed, as two attributes, which
different events write: a payload has both, the clicks set the status alone, the answer to an
operation has no status, and the correction of the store's list sets a status without more.

* `isInstalled_consistent_iff` — the runs in which the two attributes agree throughout.
* `isInstalled_lost_while_enabling` — a run in which they do not.
-/

namespace Snapweb

namespace Client

open Backbone

/-- What happens to the model: a payload is applied, or the answer to an operation, the user clicks
to install (remove, cancel) or to enable (disable), or the model is found among the installed snaps,
with their icon. -/
inductive ModelEvent
  | payload (pkg : SnapPkg)
  | accepted (package message : String)
  | install
  | enable
  | found (icon : JSValue)

namespace SnapModel

/-- `updateInstalledStates`, for a snap that is found among the installed ones. -/
def updateInstalledState (lib : Libraries) (m : SnapModel) (icon : JSValue) : SnapModel :=
  (m.setStatus lib .installed).set (handlers lib) (single .icon icon)

/-- One event. -/
def next (lib : Libraries) (m : SnapModel) : ModelEvent → SnapModel
  | .payload pkg => m.receive lib pkg.encode
  | .accepted package message => m.receive lib (operationResponse package message)
  | .install => (m.handleInstallEvent lib).1
  | .enable => (m.handleEnableEvent lib).1
  | .found icon => m.updateInstalledState lib icon

/-- The events, as a machine. -/
def machine (lib : Libraries) : Machine SnapModel ModelEvent := ⟨fun m e => some (m.next lib e)⟩

/-- The status is one of an installed snap. -/
def HasInstalledStatus (m : SnapModel) : Prop :=
  ∃ s ∈ installedStates, m.attributes.get .status = s.value

/-- The model has the snap for installed exactly in the states of an installed snap. -/
def Consistent (m : SnapModel) : Prop :=
  m.attributes.get .isInstalled = .bool true ↔ m.HasInstalledStatus

/-- The attributes agree after the event. -/
def KeepsConsistent (_ : SnapModel) (_ : ModelEvent) (m' : SnapModel) : Prop := m'.Consistent

/-- The answer to an operation comes while the status is not one of an installed snap, and a snap is
found among the installed ones that the model has for installed. -/
def Expected (m : SnapModel) (e : ModelEvent) (_ : SnapModel) : Prop :=
  match e with
  | .accepted _ _ => ¬ m.HasInstalledStatus
  | .found _ => m.attributes.get .isInstalled = .bool true
  | _ => True

/-! ## Each event -/

variable {lib : Libraries} {m : SnapModel}

/-- The states have different values. -/
lemma exists_value_iff {s : InstallState} (states : List InstallState) :
    (∃ s' ∈ states, s.value = s'.value) ↔ s ∈ states := by
  have hinj : ∀ s s' : InstallState, s.value = s'.value → s = s' := by
    intro s s' h
    cases s <;> cases s' <;> first | rfl | exact absurd h (by decide)
  constructor
  · rintro ⟨s', hs', heq⟩
    exact hinj s s' heq ▸ hs'
  · exact fun hs => ⟨s, hs, rfl⟩

/-- The attributes agree if `isInstalled` is what `parse` makes of the status. -/
lemma consistent_of_parsed (status : String) {m : SnapModel}
    (hstatus : m.attributes.get .status = .str status)
    (hinst : m.attributes.get .isInstalled
      = .bool (installedStates.any fun s => some status = some s.text)) : m.Consistent := by
  rw [Consistent, HasInstalledStatus, hstatus, hinst, JSValue.bool.injEq, List.any_eq_true]
  simp only [decide_eq_true_eq, Option.some.injEq, InstallState.value, JSValue.str.injEq]

/-- A payload has both attributes. -/
lemma consistent_payload (pkg : SnapPkg) : (m.receive lib pkg.encode).Consistent :=
  consistent_of_parsed pkg.state.status (get_receive (by decide) _)
    (get_receive (by decide) _)

lemma consistent_added (pkg : SnapPkg) : (added lib pkg.encode).Consistent :=
  consistent_of_parsed pkg.state.status (get_added (by decide) _)
    (get_added (by decide) _)

/-- The answer to an operation takes the mark away, and leaves the status. -/
lemma consistent_accepted_iff (package message : String) :
    (m.receive lib (operationResponse package message)).Consistent ↔ ¬ m.HasInstalledStatus := by
  have hstatus : (m.receive lib (operationResponse package message)).attributes.get .status
      = m.attributes.get .status := get_receive (by decide) _
  have hinst : (m.receive lib (operationResponse package message)).attributes.get .isInstalled
      = .bool false := get_receive (by decide) _
  have hlost : ¬ JSValue.bool false = .bool true := by decide
  rw [Consistent, HasInstalledStatus, HasInstalledStatus, hstatus, hinst]
  exact iff_false_left hlost

/-- A model without attributes but an id. -/
lemma consistent_fresh (id : String) : (fresh id).Consistent := by
  have hstatus : (fresh id).attributes.get .status = .undefined := get_construct _
  have hinst : (fresh id).attributes.get .isInstalled = .undefined := get_construct _
  rw [Consistent, HasInstalledStatus, hstatus, hinst]
  refine iff_of_false nofun ?_
  rintro ⟨s, -, hs⟩
  cases hs

/-- A status is set that is one of an installed snap if the status was. -/
lemma Consistent.setStatus (h : m.Consistent) {s : InstallState}
    (hsame : m.HasInstalledStatus ↔ s ∈ installedStates) : (m.setStatus lib s).Consistent := by
  have hstatus : (m.setStatus lib s).attributes.get .status = s.value := get_setStatus (by decide) s
  have hinst : (m.setStatus lib s).attributes.get .isInstalled = m.attributes.get .isInstalled :=
    get_setStatus (by decide) s
  rw [Consistent, HasInstalledStatus, hstatus, hinst, exists_value_iff]
  exact h.trans hsame

lemma Consistent.install (h : m.Consistent) : (m.handleInstallEvent lib).1.Consistent := by
  rw [handleInstallEvent]
  split_ifs with hcore hinstalled hremoved hinstalling
  · exact h
  · refine h.setStatus (iff_of_true ?_ (by decide))
    rcases hinstalled with hs | hs
    · exact ⟨.installed, by decide, hs⟩
    · exact ⟨.active, by decide, hs⟩
  · exact h.setStatus (iff_of_false (by rw [HasInstalledStatus, hremoved, exists_value_iff]; decide)
      (by decide))
  · exact h.setStatus (iff_of_false
      (by rw [HasInstalledStatus, hinstalling, exists_value_iff]; decide) (by decide))
  · exact h

lemma Consistent.enable (h : m.Consistent) : (m.handleEnableEvent lib).1.Consistent := by
  rw [handleEnableEvent]
  split_ifs with hinst hinstalled hactive
  · exact h
  · exact h.setStatus (iff_of_true ⟨.installed, by decide, hinstalled⟩ (by decide))
  · exact h.setStatus (iff_of_true ⟨.active, by decide, hactive⟩ (by decide))
  · exact h

/-- The correction sets a status of an installed snap, and leaves the mark. -/
lemma consistent_updateInstalledState_iff (icon : JSValue) :
    (m.updateInstalledState lib icon).Consistent ↔ m.attributes.get .isInstalled = .bool true := by
  have hframe : ∀ k, k ∉ writtenByHandlers → k ≠ .icon →
      (m.updateInstalledState lib icon).attributes.get k
        = (m.setStatus lib .installed).attributes.get k :=
    fun k hk hne => get_set_single (frames_handlers lib hk) hne icon
  have hstatus : (m.updateInstalledState lib icon).attributes.get .status
      = InstallState.installed.value :=
    (hframe .status (by decide) (by decide)).trans (get_setStatus (by decide) _)
  have hinst : (m.updateInstalledState lib icon).attributes.get .isInstalled
      = m.attributes.get .isInstalled :=
    (hframe .isInstalled (by decide) (by decide)).trans (get_setStatus (by decide) _)
  rw [Consistent, HasInstalledStatus, hstatus, hinst, exists_value_iff]
  exact iff_true_right (by decide)

/-- One event from a state in which the attributes agree. -/
lemma consistent_next_iff (h : m.Consistent) (e : ModelEvent) :
    (m.next lib e).Consistent ↔ Expected m e (m.next lib e) := by
  cases e with
  | payload pkg => exact iff_of_true (consistent_payload pkg) trivial
  | accepted package message => exact consistent_accepted_iff package message
  | install => exact iff_of_true h.install trivial
  | enable => exact iff_of_true h.enable trivial
  | found icon => exact consistent_updateInstalledState_iff icon

end SnapModel

variable (lib : Libraries)

/-- The attributes agree in the models that there are at first. -/
lemma Origin.consistent (origin : Origin) : (origin.model lib).Consistent := by
  cases origin with
  | fresh id => exact SnapModel.consistent_fresh id
  | added pkg => exact SnapModel.consistent_added pkg

/-- **When status and `isInstalled` agree.**  However a model is made, the two attributes agree at
first, and they agree after every event of a run exactly if each answer to an operation comes while
the status is not one of an installed snap, and only snaps that the model has for installed are found
among the installed ones. -/
theorem isInstalled_consistent_iff (origin : Origin) (es : List ModelEvent) :
    (origin.model lib).Consistent ∧
      ((SnapModel.machine lib).Along SnapModel.KeepsConsistent (origin.model lib) es ↔
        (SnapModel.machine lib).Along SnapModel.Expected (origin.model lib) es) := by
  refine ⟨origin.consistent lib, Machine.along_congr ?_ ?_ (origin.consistent lib) es⟩
  · rintro m e m' hm hnext
    cases hnext
    exact SnapModel.consistent_next_iff hm e
  · exact fun m e m' _ _ hkeeps => hkeeps

/-- `hello-world` is installed, the user asks to enable it, and the server accepts: the model no
longer has it for installed. -/
theorem isInstalled_lost_while_enabling :
    ¬ ∀ (lib : Libraries) (origin : Origin) (es : List ModelEvent) (m : SnapModel),
      (SnapModel.machine lib).exec (origin.model lib) es = some m → m.Consistent := by
  intro h
  have hagree := h plainLibraries (.added (describe (helloWorld "installed")))
    [.enable, .accepted "hello-world" "Accepted"] _ rfl
  exact absurd (hagree.mpr ⟨.enabling, by decide, rfl⟩) (by decide)

end Client

end Snapweb
