import Snapweb.Packages.Icons
import Snapweb.Packages.Operations

/-!
# Package payloads

The part of `converge.go` that describes snaps to the client: `snapToPayload`, `packagePayload`,
`allPackages`.  Building a payload has two side effects: `State` drops the entry of an operation
that the record shows completed, and an icon may be copied.  Both are lasting, so the payload
functions return the server they leave.

* `snapToPayload_server` — the side effects, apart from the payload.
* `snapToPayload_of_quiet` — when there are none.
* `Server.Grows` — what they have in common: entries are lost, icon files are gained.
-/

namespace Snapweb

/-- `SnapState` of the packages API: what the client is told of the tracked state. -/
structure PackageState where
  status : String
  taskSummary : String
  localSize : UInt64
  deriving DecidableEq

/-- `snapPkg`: a snap as the client is told. -/
structure SnapPkg where
  id : String
  name : String
  developer : String
  version : String
  description : String
  icon : String := ""
  state : PackageState
  price : String
  installedSize : Int64 := 0
  downloadSize : Int64 := 0
  type : String
  isPrivate : Bool
  channel : String
  installDate : String
  deriving DecidableEq

/-- A number in decimal, with zeros in front up to a width. -/
def zeroPad (width n : ℕ) : String :=
  "".pushn '0' (width - (toString n).length) ++ toString n

/-- The name of a month. -/
def monthName (m : Fin 12) : String :=
  ["January", "February", "March", "April", "May", "June", "July", "August", "September",
    "October", "November", "December"].get m

/-- `formatInstallData`: the layout is `02 January 2006 15:04:05`, and store snaps have no date. -/
def formatInstallData : Option CivilTime → String
  | none => ""
  | some d =>
      zeroPad 2 d.day ++ " " ++ monthName d.month ++ " " ++ zeroPad 4 d.year ++ " " ++
        zeroPad 2 d.hour ++ ":" ++ zeroPad 2 d.minute ++ ":" ++ zeroPad 2 d.second

/-- The first price, in the order of the currencies. -/
def priceStringFromSnapPrice (p : Finmap fun _ : String => String) : String :=
  match sortStrings p.keys with
  | [] => ""
  | currency :: _ => (p.lookup currency).getD "" ++ " " ++ currency

/-- What the client is told of a tracked state. -/
def stateFromTrackerState (ts : SnapState) : PackageState :=
  { status := ts.status.text, taskSummary := ts.taskSummary, localSize := ts.localSize }

/-- The icon is one that snapd serves (`^/v2/icons/(.*)`). -/
def servedBySnapd (icon : String) : Bool := "/v2/icons/".toList.isPrefixOf icon.toList

/-- The icon path of an installed snap. -/
def installedIcon (env : Surroundings) (sv : Server) (name : String) : String :=
  match (localIconPath env sv name).err with
  | none => (localIconPath env sv name).relativePath
  | some .iconNotExist =>
      -- this could happen during an uninstall process
      match tryLocateCachedIconForSnap env sv name with
      | .ok p => p
      | .error _ => ""
  | some _ => ""

/-- Describe a snap from its record. -/
def snapToPayload (env : Surroundings) (sv : Server) (snapQ : Snap) : SnapPkg × Server :=
  let (state, stateTracker) := sv.stateTracker.state (some env.client) snapQ
  let sv := { sv with stateTracker := stateTracker }
  let snap : SnapPkg :=
    { id := snapQ.name
      name := snapQ.name
      developer := snapQ.developer
      version := snapQ.version
      description := snapQ.description
      type := snapQ.type
      state := stateFromTrackerState state
      price := priceStringFromSnapPrice snapQ.prices
      isPrivate := snapQ.isPrivate
      channel := snapQ.channel
      installDate := formatInstallData snapQ.installDate }
  if isInstalled snapQ then
    ({ snap with icon := installedIcon env sv snap.name, installedSize := snapQ.installedSize },
      { sv with files := (localIconPath env sv snap.name).files })
  else if servedBySnapd snapQ.icon then
    let found := localIconPath env sv snap.name
    ({ snap with
        icon := if found.err.isSome then "" else found.relativePath
        downloadSize := snapQ.downloadSize },
      { sv with files := found.files })
  else ({ snap with icon := snapQ.icon, downloadSize := snapQ.downloadSize }, sv)

/-- What a function with an error value returns, unless it panics. -/
inductive Returned (α : Type)
  | ok (a : α)
  | error (e : Error)
  | panic

/-- Describe a snap by its name. -/
def packagePayload (env : Surroundings) (sv : Server) (name : String) :
    Returned SnapPkg × Server :=
  match getSnap env.client name with
  | .error err => (.error err, sv)
  | .ok none => (.panic, sv)
  | .ok (some snap) => ((snapToPayload env sv snap).1 |> .ok, (snapToPayload env sv snap).2)

/-- Which snaps are listed. -/
inductive SnapCondition
  | installedSnaps
  | availableSnaps
  | trackedSnaps
  deriving DecidableEq, Repr

/-- The loop that looks the tracked snaps up; it breaks at the first error. -/
def trackedRecords (c : SnapdClient) : List String → List (Option Snap)
  | [] => []
  | name :: names =>
      match getSnap c name with
      | .error _ => []
      | .ok snap => snap :: trackedRecords c names

/-- `url.QueryEscape`. -/
def queryEscape (s : String) : String :=
  String.ofList <| s.toUTF8.toList.flatMap fun b =>
    let c := Char.ofNat b.toNat
    if c.isAlphanum || c ∈ ['-', '_', '.', '~'] then [c]
    else if c = ' ' then ['+']
    else ['%', (Nat.digitChar (b.toNat / 16)).toUpper, (Nat.digitChar (b.toNat % 16)).toUpper]

/-- The records to list, or the error of looking them up.  Go ranges over the tracker's map in
any order, which the sorting undoes. -/
def snapRecords (env : Surroundings) (sv : Server) (cond : SnapCondition) (query : String)
    (isPrivate : Bool) (sectionName : String) : Except Error (List (Option Snap)) :=
  match cond with
  | .installedSnaps => env.client.list.map (·.map some)
  | .trackedSnaps => .ok (trackedRecords env.client (sortStrings sv.stateTracker.states.keys))
  | .availableSnaps =>
      (env.client.find { query := queryEscape query, isPrivate, sectionName }).map (·.map some)

/-- The loop that describes the snaps; a `nil` record panics. -/
def payloads (env : Surroundings) : Server → List (Option Snap) → Returned (List SnapPkg) × Server
  | sv, [] => (.ok [], sv)
  | sv, none :: _ => (.panic, sv)
  | sv, some snap :: rest =>
      let (pkg, sv) := snapToPayload env sv snap
      match payloads env sv rest with
      | (.ok pkgs, sv) => (.ok (pkg :: pkgs), sv)
      | failed => failed

/-- List snaps. -/
def allPackages (env : Surroundings) (sv : Server) (cond : SnapCondition) (query : String)
    (isPrivate : Bool) (sectionName : String) : Returned (List SnapPkg) × Server :=
  match snapRecords env sv cond query isPrivate sectionName with
  | .error err => (.error err, sv)
  | .ok snaps => payloads env sv snaps

/-! ## What describing a snap leaves -/

/-- The record has an icon that the server copies from snapd. -/
def asksForIcon (snap : Snap) : Bool := isInstalled snap || servedBySnapd snap.icon

lemma snapToPayload_status (env : Surroundings) (sv : Server) (snap : Snap) :
    (snapToPayload env sv snap).1.state.status
      = (sv.stateTracker.state (some env.client) snap).1.status.text := by
  simp only [snapToPayload]
  split_ifs <;> rfl

lemma snapToPayload_installedSize (env : Surroundings) (sv : Server) (snap : Snap) :
    (snapToPayload env sv snap).1.installedSize = if isInstalled snap then snap.installedSize else 0 := by
  simp only [snapToPayload]
  split_ifs <;> rfl

lemma snapToPayload_downloadSize (env : Surroundings) (sv : Server) (snap : Snap) :
    (snapToPayload env sv snap).1.downloadSize = if isInstalled snap then 0 else snap.downloadSize := by
  simp only [snapToPayload]
  split_ifs <;> rfl

lemma snapToPayload_state (env : Surroundings) (sv : Server) (snap : Snap) :
    (snapToPayload env sv snap).1.state
      = stateFromTrackerState (sv.stateTracker.state (some env.client) snap).1 := by
  simp only [snapToPayload]
  split_ifs <;> rfl

/-- The side effects: `State` on the tracker, and a copy of the icon. -/
lemma snapToPayload_server (env : Surroundings) (sv : Server) (snap : Snap) :
    (snapToPayload env sv snap).2 =
      { sv with
        stateTracker := (sv.stateTracker.state (some env.client) snap).2
        files := if asksForIcon snap then (localIconPath env sv snap.name).files else sv.files } := by
  simp only [snapToPayload, asksForIcon, Bool.or_eq_true]
  by_cases hinst : isInstalled snap = true
  · simp only [hinst, if_true, true_or]
    rfl
  · by_cases hicon : servedBySnapd snap.icon = true
    · simp only [hinst, hicon, if_true, or_true]
      rfl
    · simp only [hinst, hicon, or_self]
      rfl

/-- Describing the snap changes nothing: the record leaves the operation on it unfinished, if
there is one, and no icon is copied. -/
def QuietRecord (env : Surroundings) (sv : Server) (snap : Snap) : Prop :=
  (∀ e, sv.stateTracker.lookup snap.name = some e → hasOperationCompleted e.status snap = false) ∧
    (asksForIcon snap = true → ¬ CopiesIcon env sv snap.name)

/-- A quiet record leaves the server as it was. -/
lemma snapToPayload_of_quiet {env : Surroundings} {sv : Server} {snap : Snap}
    (h : QuietRecord env sv snap) : (snapToPayload env sv snap).2 = sv := by
  have htracker : (sv.stateTracker.state (some env.client) snap).2 = sv.stateTracker := by
    rcases sv.stateTracker.state_snd (some env.client) snap with heq | ⟨⟨e, he, hdone⟩, -⟩
    · exact heq
    · rw [h.1 e he] at hdone
      cases hdone
  rw [snapToPayload_server, htracker]
  by_cases hask : asksForIcon snap = true
  · rw [if_pos hask, localIconPath_files_of_not_copies (h.2 hask)]
  · rw [if_neg hask]

/-- `sv'` comes after `sv` by listings: entries are lost, icon files are gained. -/
structure Server.Grows (sv sv' : Server) : Prop where
  snapData : sv'.snapData = sv.snapData
  lookup : ∀ n, sv'.stateTracker.lookup n = sv.stateTracker.lookup n ∨
    sv'.stateTracker.lookup n = none
  files : ∀ p, sv.files.Has p → sv'.files.Has p

lemma Server.Grows.refl (sv : Server) : sv.Grows sv := ⟨rfl, fun _ => .inl rfl, fun _ h => h⟩

lemma Server.Grows.trans {sv₁ sv₂ sv₃ : Server} (h : sv₁.Grows sv₂) (h' : sv₂.Grows sv₃) :
    sv₁.Grows sv₃ where
  snapData := h'.snapData.trans h.snapData
  lookup n := by
    rcases h'.lookup n with heq | hnone
    · rw [heq]
      exact h.lookup n
    · exact .inr hnone
  files p hp := h'.files p (h.files p hp)

lemma snapToPayload_grows (env : Surroundings) (sv : Server) (snap : Snap) :
    sv.Grows (snapToPayload env sv snap).2 := by
  rw [snapToPayload_server]
  refine ⟨rfl, fun n => ?_, fun p hp => ?_⟩
  · rcases sv.stateTracker.state_snd (some env.client) snap with heq | ⟨-, heq⟩
    · exact .inl (by rw [heq])
    · dsimp only
      rw [heq]
      by_cases hn : n = snap.name
      · rw [hn]
        exact .inr (StateTracker.lookup_drop_self _ _)
      · exact .inl (StateTracker.lookup_drop_ne _ hn)
  · dsimp only
    split_ifs
    · exact has_localIconPath hp
    · exact hp

/-- Listing snaps loses entries and gains icon files. -/
lemma payloads_grows (env : Surroundings) (sv : Server) (snaps : List (Option Snap)) :
    sv.Grows (payloads env sv snaps).2 := by
  induction snaps generalizing sv with
  | nil => exact .refl sv
  | cons snap rest ih =>
      cases snap with
      | none => exact .refl sv
      | some snap =>
          have hgrows := (snapToPayload_grows env sv snap).trans (ih (snapToPayload env sv snap).2)
          simp only [payloads]
          split
          · next heq => rwa [heq] at hgrows
          · exact hgrows

end Snapweb
