import Snapweb.Packages.Handlers

/-!
# The client's snap model

The server encodes a payload as JSON, leaving out the empty members that are tagged `omitempty`;
the client's `Snap.parse` reads the object and adds attributes of its own, among them its notion of
an installed snap, which it takes from the state alone.

* `parse` — `models/snap.js`, over objects whose members may be absent.
* `clientIsInstalled_eq` — the client's notion of an installed snap, for each tracked state.
* `client_agrees_iff` — it is the server's own notion exactly when no enabling or disabling is
  reported of a snap whose record is not installed.
-/

namespace Snapweb

/-- A JavaScript number, as far as the client computes one (in exact arithmetic). -/
inductive JSNumber
  | int (z : ℤ)
  | infinity
  | nan
  deriving DecidableEq

/-- The member `state` of a payload. -/
structure StateMember where
  status : String
  taskSummary : String
  localSize : Option ℕ
  deriving DecidableEq

/-- An object the client receives or holds; every member may be absent. -/
structure Attributes where
  id : Option String := none
  name : Option String := none
  developer : Option String := none
  version : Option String := none
  description : Option String := none
  icon : Option String := none
  state : Option StateMember := none
  price : Option String := none
  installedSize : Option ℤ := none
  downloadSize : Option ℤ := none
  type : Option String := none
  isPrivate : Option Bool := none
  channel : Option String := none
  installDate : Option String := none
  package : Option String := none
  message : Option String := none
  status : Option String := none
  taskSummary : Option String := none
  downloadProgress : Option JSNumber := none
  isInstalled : Option Bool := none
  isEnabled : Option Bool := none
  isInstallable : Option Bool := none
  priced : Option Bool := none
  isCoreSnap : Option Bool := none
  prettyDownloadSize : Option String := none
  prettyInstalledSize : Option String := none
  deriving DecidableEq

/-- `omitempty`: a member is left out when it has its type's zero value. -/
def omitEmpty {α : Type} [DecidableEq α] (zero a : α) : Option α := if a = zero then none else some a

/-- The JSON object of a payload. -/
def SnapPkg.encode (pkg : SnapPkg) : Attributes where
  id := some pkg.id
  name := some pkg.name
  developer := some pkg.developer
  version := some pkg.version
  description := some pkg.description
  icon := some pkg.icon
  state := some
    { status := pkg.state.status
      taskSummary := pkg.state.taskSummary
      localSize := omitEmpty 0 pkg.state.localSize.toNat }
  price := omitEmpty "" pkg.price
  installedSize := omitEmpty 0 pkg.installedSize.toInt
  downloadSize := omitEmpty 0 pkg.downloadSize.toInt
  type := omitEmpty "" pkg.type
  isPrivate := some pkg.isPrivate
  channel := some pkg.channel
  installDate := some pkg.installDate

namespace Client

/-! ## `CONF` -/

/-- `CONF.INSTALL_STATE`. -/
inductive InstallState
  | installed
  | installing
  | removed
  | removing
  | enabling
  | disabling
  | active
  | priced
  | cancel
  deriving DecidableEq, Repr

/-- The text of an install state. -/
def InstallState.text : InstallState → String
  | installed => "installed"
  | installing => "installing"
  | removed => "uninstalled"
  | removing => "uninstalling"
  | enabling => "enabling"
  | disabling => "disabling"
  | active => "active"
  | priced => "priced"
  | cancel => "cancel"

/-- `CONF.NON_INSTALLABLE_IDS`. -/
def nonInstallableIDs : List String := ["snapweb", "ubuntu-core"]

/-- `CONF.NON_INSTALLABLE_TYPES`. -/
def nonInstallableTypes : List String := ["gadget"]

/-- `CONF.NON_REMOVABLE_SNAP_TYPES`. -/
def nonRemovableSnapTypes : List String := ["gadget", "os", "kernel"]

/-- `defaults.icon`. -/
def defaultIcon : String := "/public/images/default-package-icon.svg"

/-! ## `parse` -/

/-- The libraries that `parse` calls: `prettyBytes`, and `linkify` with its options. -/
structure Libraries where
  prettyBytes : ℤ → String
  linkify : String → String

/-- `Math.floor(local_size / download_size * 100)`, for a positive `local_size`; an absent
`download_size` is not a number. -/
def downloadProgress (localSize : ℕ) : Option ℤ → JSNumber
  | none => .nan
  | some 0 => .infinity
  | some size => .int (Int.fdiv (localSize * 100) size)

/-- The states in which the client takes a snap for installed. -/
def installedStates : List InstallState := [.installed, .active, .removing, .enabling, .disabling]

/-- What `parse` returns, and the model's attributes that it sets on the way. -/
structure Parsed where
  response : Attributes
  prettyDownloadSize : Option String
  prettyInstalledSize : Option String

/-- `Snap.parse`. -/
def parse (lib : Libraries) (response : Attributes) : Parsed :=
  let status := response.state.map (·.status)
  let isState (s : InstallState) : Bool := status = some s.text
  let isCoreSnap : Bool :=
    (match response.type with
      | some type => type ≠ "" ∧ (type ∈ nonInstallableTypes ∨ type ∈ nonRemovableSnapTypes)
      | none => false) ||
    (match response.id with
      | some id => id ≠ "" ∧ id ∈ nonInstallableIDs
      | none => false)
  { response :=
      { response with
        status := if response.state.isSome then status else response.status
        taskSummary :=
          match response.state with
          | some state => some state.taskSummary
          | none => response.taskSummary
        downloadProgress :=
          match response.state.bind (·.localSize) with
          | some localSize =>
              if 0 < localSize then some (downloadProgress localSize response.downloadSize)
              else response.downloadProgress
          | none => response.downloadProgress
        isInstalled := some (installedStates.any isState)
        icon := response.icon.map fun icon => if icon = "" then defaultIcon else icon
        isEnabled := some (isState .active)
        isInstallable :=
          if isCoreSnap then some false
          else if isState .priced then some true
          else response.isInstallable
        priced := if isState .priced then some true else response.priced
        isCoreSnap := some isCoreSnap
        description :=
          response.description.map fun text => if text = "" then text else lib.linkify text }
    prettyDownloadSize := response.downloadSize.map lib.prettyBytes
    prettyInstalledSize := response.installedSize.map lib.prettyBytes }

end Client

/-! ## Two notions of an installed snap -/

/-- The client's notion: what `parse` makes of the encoded payload. -/
def SnapPkg.clientIsInstalled (lib : Client.Libraries) (pkg : SnapPkg) : Bool :=
  (Client.parse lib pkg.encode).response.isInstalled = some true

/-- The tracked states in which the client takes a snap for installed. -/
def Status.takenForInstalled : Status → Bool
  | .installed | .active | .uninstalling | .enabling | .disabling => true
  | _ => false

lemma clientIsInstalled_eq (lib : Client.Libraries) {pkg : SnapPkg} {s : Status}
    (h : pkg.state.status = s.text) : pkg.clientIsInstalled lib = s.takenForInstalled := by
  simp only [SnapPkg.clientIsInstalled, Client.parse, SnapPkg.encode, Option.map_some, h,
    Option.some_inj]
  cases s <;> decide

/-- On snapd's own word the two sides agree. -/
lemma takenForInstalled_translateStatus (snap : Snap) :
    (translateStatus snap).takenForInstalled = isInstalled snap := by
  rw [Bool.eq_iff_iff, ← translateStatus_installed_iff, translateStatus]
  split_ifs <;> decide

/-- `State` answers an enabling or disabling for a record that is not installed. -/
def SwitchesUninstalled (t : StateTracker) (snap : Snap) : Prop :=
  ∃ e, t.lookup snap.name = some e ∧ (e.status = .enabling ∨ e.status = .disabling) ∧
    isInstalled snap = false

lemma switchesUninstalled_iff {t : StateTracker} {snap : Snap} {e : SnapState}
    (he : t.lookup snap.name = some e) : SwitchesUninstalled t snap ↔
      (e.status = .enabling ∨ e.status = .disabling) ∧ isInstalled snap = false := by
  constructor
  · rintro ⟨e', he', hswitches, hinst⟩
    obtain rfl : e = e' := Option.some_inj.mp (he.symm.trans he')
    exact ⟨hswitches, hinst⟩
  · rintro ⟨hswitches, hinst⟩
    exact ⟨e, he, hswitches, hinst⟩

/-- A record that completes an enabling or disabling is that of an installed snap. -/
lemma isInstalled_of_switched {s : Status} (hs : s = .enabling ∨ s = .disabling) {snap : Snap}
    (hdone : hasOperationCompleted s snap = true) : isInstalled snap = true := by
  rw [isInstalled_eq_true]
  rcases hs with rfl | rfl
  · exact .inr (beq_iff_eq.mp hdone)
  · exact .inl (beq_iff_eq.mp hdone)

/-- A record that leaves an operation unfinished is that of an installed snap exactly if the client
takes the operation's status for an installed one, but for an enabling or disabling. -/
lemma takenForInstalled_of_running {op : Operation} {snap : Snap}
    (hrun : hasOperationCompleted op.status snap = false) :
    op.status.takenForInstalled = isInstalled snap ↔
      ¬ ((op.status = .enabling ∨ op.status = .disabling) ∧ isInstalled snap = false) := by
  cases op with
  | install =>
      have hinst : isInstalled snap = false := hrun
      simp [Operation.status, Status.takenForInstalled, hinst]
  | uninstall =>
      have hinst : isInstalled snap = true := by
        simpa [hasOperationCompleted, Operation.status] using hrun
      simp [Operation.status, Status.takenForInstalled, hinst]
  | enable => simp [Operation.status, Status.takenForInstalled]
  | disable => simp [Operation.status, Status.takenForInstalled]

/-- What `State` answers is an installed state, for the client, exactly for an installed record,
but for an enabling or disabling of a snap that is not installed. -/
lemma state_takenForInstalled_iff {t : StateTracker} (ht : t.Tracking) (c : Option SnapdClient)
    (snap : Snap) :
    (t.state c snap).1.status.takenForInstalled = isInstalled snap ↔
      ¬ SwitchesUninstalled t snap := by
  rcases he : t.lookup snap.name with _ | e
  · rw [StateTracker.state_of_untracked c he]
    refine iff_of_true (takenForInstalled_translateStatus snap) ?_
    rintro ⟨e, he', -⟩
    cases he.symm.trans he'
  · obtain ⟨op, changeID, rfl⟩ := ht _ _ he
    rw [switchesUninstalled_iff he]
    by_cases hdone : hasOperationCompleted op.status snap = true
    · rw [StateTracker.state_of_completed c he hdone]
      refine iff_of_true (takenForInstalled_translateStatus snap) ?_
      rintro ⟨hswitches, hinst⟩
      rw [isInstalled_of_switched hswitches hdone] at hinst
      cases hinst
    · have hrun : hasOperationCompleted op.status snap = false := by simpa using hdone
      rw [(StateTracker.state_of_running c he hrun).1]
      exact takenForInstalled_of_running hrun

/-- **Agreement on what is installed.**  For every reachable tracker and every record: what the
client computes from the payload is the server's own notion, and the payload's object has the
installed size exactly then, if and only if the record is not that of a snap that is tracked as
being enabled or disabled and is not installed. -/
theorem client_agrees_iff (lib : Client.Libraries) (env : Surroundings) (sv : Server)
    (ht : sv.stateTracker.Reachable) (snap : Snap) :
    ((snapToPayload env sv snap).1.clientIsInstalled lib = isInstalled snap ∧
      (snapToPayload env sv snap).1.encode.installedSize =
        if (snapToPayload env sv snap).1.clientIsInstalled lib then omitEmpty 0 snap.installedSize.toInt
        else none) ↔
      ¬ SwitchesUninstalled sv.stateTracker snap := by
  rw [← state_takenForInstalled_iff ht.tracking (some env.client) snap,
    ← clientIsInstalled_eq lib (snapToPayload_status env sv snap)]
  refine and_iff_left_of_imp fun hagree => ?_
  rw [hagree]
  simp only [SnapPkg.encode, snapToPayload_installedSize]
  by_cases hinst : isInstalled snap = true
  · rw [if_pos hinst, if_pos hinst]
  · rw [if_neg hinst, if_neg hinst]
    rfl

/-- Libraries that leave texts as they are. -/
def plainLibraries : Client.Libraries := { prettyBytes := toString, linkify := id }

/-- The surroundings of a request when snapd knows one snap, and its icon is not to be had. -/
def Surroundings.knowing (snap : Snap) : Surroundings :=
  { client := .knowing snap "1", mkdirAll := false, write := fun _ => .refused }

/-- `hello-world`, with a status. -/
def helloWorld (status : String) : Snap := { name := "hello-world", status, installedSize := 4096 }

/-- The payload of a snap that is not tracked. -/
def describe (snap : Snap) : SnapPkg := (snapToPayload (.knowing snap) (Server.start "" ∅) snap).1

/-- An installed snap that is being disabled: both sides take it for installed. -/
theorem client_agrees_while_disabling :
    let sv : Server := { Server.start "" ∅ with
      stateTracker := StateTracker.new.trackDisable "1" (helloWorld "active") }
    (snapToPayload (.knowing (helloWorld "active")) sv (helloWorld "active")).1.clientIsInstalled
        plainLibraries = isInstalled (helloWorld "active") ∧
      (snapToPayload (.knowing (helloWorld "active")) sv (helloWorld "active")).1.encode.installedSize
        = if (snapToPayload (.knowing (helloWorld "active")) sv (helloWorld "active")).1.clientIsInstalled
            plainLibraries then omitEmpty 0 (helloWorld "active").installedSize.toInt else none := by
  refine (client_agrees_iff plainLibraries (.knowing (helloWorld "active")) _
    (.track .disable "1" (helloWorld "active") .new) (helloWorld "active")).mpr ?_
  rintro ⟨-, -, -, hinst⟩
  exact absurd hinst (by decide)

/-- `hello-world` is being enabled and is removed from outside: the client takes it for installed,
the server does not. -/
theorem client_disagrees_on_removed_snap :
    ¬ ∀ (lib : Client.Libraries) (env : Surroundings) (sv : Server) (snap : Snap),
      sv.stateTracker.Reachable →
      (snapToPayload env sv snap).1.clientIsInstalled lib = isInstalled snap := by
  intro h
  have heq := h plainLibraries (.knowing (helloWorld "removed"))
    { Server.start "" ∅ with
      stateTracker := StateTracker.new.trackEnable "1" (helloWorld "installed") }
    (helloWorld "removed") (.track .enable "1" (helloWorld "installed") .new)
  exact absurd heq (by decide)

end Snapweb
