import Snapweb.Client.SnapModel
import Snapweb.Core.Backbone

/-!
# What happens to the client's snap model

The Backbone model behind `models/snap.js`: how it is made, what a response of the server and an error
do to it, and the clicks of `common/snaps.js`.  All of its attributes are written by `set`, which runs
the model's own handlers of changes of the status and of the sizes.

* `frames_handlers` — what no handler writes.
* `SnapModel.get_receive`, `SnapModel.get_setStatus`, `SnapModel.get_added` — what a response, a click
  and an addition leave of it.
-/

namespace Snapweb

namespace Client

open Backbone

/-- The attributes of the model. -/
inductive Attr
  | id
  | name
  | developer
  | version
  | description
  | icon
  | state
  | price
  | installedSize
  | downloadSize
  | type
  | isPrivate
  | channel
  | installDate
  | package
  | message
  | status
  | taskSummary
  | downloadProgress
  | isInstalled
  | isEnabled
  | isInstallable
  | priced
  | isCoreSnap
  | prettyDownloadSize
  | prettyInstalledSize
  | installActionString
  | installHTMLClass
  | installButtonClass
  | enableDisableActionString
  deriving DecidableEq, Repr

/-- The values that attributes have. -/
inductive JSValue
  | undefined
  | bool (b : Bool)
  | num (n : JSNumber)
  | str (s : String)
  | state (s : StateMember)
  deriving DecidableEq

instance : Inhabited JSValue := ⟨.undefined⟩

/-- An attribute's value as a condition. -/
def JSValue.truthy : JSValue → Bool
  | undefined => false
  | bool b => b
  | num n => n ≠ .int 0 ∧ n ≠ .nan
  | str s => s ≠ ""
  | state _ => true

/-- The attributes of an object that the client receives. -/
def toObj (a : Attributes) : Obj Attr JSValue
  | .id => a.id.map .str
  | .name => a.name.map .str
  | .developer => a.developer.map .str
  | .version => a.version.map .str
  | .description => a.description.map .str
  | .icon => a.icon.map .str
  | .state => a.state.map .state
  | .price => a.price.map .str
  | .installedSize => a.installedSize.map fun z => .num (.int z)
  | .downloadSize => a.downloadSize.map fun z => .num (.int z)
  | .type => a.type.map .str
  | .isPrivate => a.isPrivate.map .bool
  | .channel => a.channel.map .str
  | .installDate => a.installDate.map .str
  | .package => a.package.map .str
  | .message => a.message.map .str
  | .status => a.status.map .str
  | .taskSummary => a.taskSummary.map .str
  | .downloadProgress => a.downloadProgress.map .num
  | .isInstalled => a.isInstalled.map .bool
  | .isEnabled => a.isEnabled.map .bool
  | .isInstallable => a.isInstallable.map .bool
  | .priced => a.priced.map .bool
  | .isCoreSnap => a.isCoreSnap.map .bool
  | .prettyDownloadSize => a.prettyDownloadSize.map .str
  | .prettyInstalledSize => a.prettyInstalledSize.map .str
  | _ => none

/-- The value of a status. -/
def InstallState.value (s : InstallState) : JSValue := .str s.text

/-- The states in which the model is refreshed. -/
def transitionalStates : List InstallState := [.installing, .removing, .disabling, .enabling]

/-- The status is one in which the model is refreshed. -/
def isTransitional (status : JSValue) : Bool :=
  transitionalStates.any fun s => decide (status = s.value)

/-! ## The handlers of changes -/

/-- `setInstallActionString`. -/
def installActionString (o : Obj Attr JSValue) : Update Attr JSValue :=
  let status := o.get .status
  if status = InstallState.priced.value then .set .installActionString (o.get .price)
  else if status = InstallState.active.value ∨ status = InstallState.installed.value then
    .set .installActionString (.str "Remove")
  else if status = InstallState.installing.value then .set .installActionString (.str "Installing")
  else if status = InstallState.removed.value then .set .installActionString (.str "Install")
  else if status = InstallState.removing.value then .set .installActionString (.str "Removing")
  else .unset .installActionString

/-- `setInstallHTMLClass`. -/
def installHTMLClass (o : Obj Attr JSValue) : Update Attr JSValue :=
  let status := o.get .status
  let removable := nonRemovableSnapTypes.all fun type => o.get .type ≠ .str type
  .set .installHTMLClass <| .str <|
    if status = InstallState.removing.value then "b-installer_do_remove b-installer_thinking"
    else if status = InstallState.installing.value then "b-installer_do_install b-installer_thinking"
    else if removable ∧
        (status = InstallState.installed.value ∨ status = InstallState.active.value) then
      "b-installer_do_remove"
    else if status = InstallState.removed.value then "b-installer_do_install"
    else ""

/-- `setInstallButtonClass`. -/
def installButtonClass (o : Obj Attr JSValue) : Update Attr JSValue :=
  let status := o.get .status
  .set .installButtonClass <|
    if status = InstallState.active.value ∨ status = InstallState.installed.value ∨
        status = InstallState.installing.value then .str "button--secondary"
    else if status = InstallState.removed.value ∨ status = InstallState.removing.value then
      .str "button--primary"
    else .undefined

/-- `setEnableDisableActionString`. -/
def enableDisableActionString (o : Obj Attr JSValue) : Update Attr JSValue :=
  let status := o.get .status
  .set .enableDisableActionString <|
    if status = InstallState.enabling.value then .str "Enabling…"
    else if status = InstallState.disabling.value then .str "Disabling…"
    else if status = InstallState.installed.value then .str "Enable"
    else if status = InstallState.active.value then .str "Disable"
    else .undefined

/-- `onStatusChange`.  What it writes is nothing that it reads. -/
def onStatusChange (o : Obj Attr JSValue) : List (Update Attr JSValue) :=
  (if isTransitional (o.get .status) then []
    else [.set .downloadProgress (.num (.int 0)), .set .taskSummary (.str "")]) ++
  [installActionString o, installHTMLClass o, installButtonClass o, enableDisableActionString o]

/-- `prettifyBytes(Number(bytes))`. -/
def prettify (lib : Libraries) : JSValue → JSValue
  | .num (.int z) => .str (lib.prettyBytes z)
  | _ => .str ""

/-- The handlers of changes. -/
def handlers (lib : Libraries) : List (ChangeHandler Attr JSValue) :=
  [ ⟨.status, onStatusChange⟩,
    ⟨.installedSize, fun o => [.set .prettyInstalledSize (prettify lib (o.get .installedSize))]⟩,
    ⟨.downloadSize, fun o => [.set .prettyDownloadSize (prettify lib (o.get .downloadSize))]⟩ ]

/-! ## How a model is made -/

/-- A Backbone model of a snap. -/
abbrev SnapModel := Model Attr JSValue

/-- `defaults`. -/
def defaults : Obj Attr JSValue
  | .icon => some (.str defaultIcon)
  | .installActionString => some (.bool false)
  | .isInstallable => some (.bool true)
  | _ => none

/-- The constructor, without `parse`: there are no handlers yet. -/
def SnapModel.construct (m : SnapModel) (attrs : Obj Attr JSValue) : SnapModel :=
  m.set [] (defaults.extend attrs)

/-- The model of a snap that is known by its id alone. -/
def SnapModel.fresh (id : String) : SnapModel :=
  SnapModel.construct ⟨Obj.empty, Obj.empty⟩ (toObj { id := some id })

/-- An object with one attribute. -/
def single (k : Attr) (v : JSValue) : Obj Attr JSValue := fun k' => if k' = k then some v else none

/-- What `parse` sets on the way, with the handlers `hs`. -/
def SnapModel.setPretty (hs : List (ChangeHandler Attr JSValue)) (m : SnapModel) (p : Parsed) :
    SnapModel :=
  let m := match p.prettyDownloadSize with
    | some text => m.set hs (single .prettyDownloadSize (.str text))
    | none => m
  match p.prettyInstalledSize with
  | some text => m.set hs (single .prettyInstalledSize (.str text))
  | none => m

/-- The model of a snap that is added to a collection, from a payload: the handlers of `add` set one
attribute after the other. -/
def SnapModel.added (lib : Libraries) (response : Attributes) : SnapModel :=
  let p := parse lib response
  let m := SnapModel.construct (SnapModel.setPretty [] ⟨Obj.empty, Obj.empty⟩ p) (toObj p.response)
  (onStatusChange m.attributes).foldl (Model.update (handlers lib)) m

/-- Where a model comes from: it is made of an id, or added to a collection from a payload. -/
inductive Origin
  | fresh (id : String)
  | added (pkg : SnapPkg)

/-- The model. -/
def Origin.model (lib : Libraries) : Origin → SnapModel
  | fresh id => SnapModel.fresh id
  | added pkg => SnapModel.added lib pkg.encode

/-! ## Responses -/

/-- A response of the server is parsed and set. -/
def SnapModel.receive (lib : Libraries) (m : SnapModel) (response : Attributes) : SnapModel :=
  let p := parse lib response
  (m.setPretty (handlers lib) p).set (handlers lib) (toObj p.response)

/-- `response`: what the server answers to an operation that it has accepted. -/
def operationResponse (package message : String) : Attributes :=
  { package := some package, message := some message }

/-- The message of an error, from that of the response, if it has one. -/
def errorMessage (message : Option String) : String :=
  match message with
  | some text => if text = "" then "Sorry, something went wrong :(" else text
  | none => "Sorry, something went wrong :("

/-- The very special case: a snap that is being uninstalled is not found. -/
def SnapModel.isGone (m : SnapModel) (notFound : Bool) : Bool :=
  notFound && decide (m.attributes.get .status = InstallState.removing.value)

/-- What an error sets: the attributes before the most recent `set`, with a message. -/
def SnapModel.rollback (m : SnapModel) (message : Option String) : Obj Attr JSValue :=
  Function.update m.previous .message (some (.str (errorMessage message)))

/-- The handler of `error`. -/
def SnapModel.onError (lib : Libraries) (m : SnapModel) (notFound : Bool) (message : Option String) :
    SnapModel :=
  if m.isGone notFound then m else m.set (handlers lib) (m.rollback message)

/-! ## Clicks -/

/-- What a click asks the server for. -/
inductive Call
  | save
  | destroy
  deriving DecidableEq, Repr

/-- The model with a status. -/
def SnapModel.setStatus (lib : Libraries) (m : SnapModel) (s : InstallState) : SnapModel :=
  m.set (handlers lib) (single .status s.value)

/-- `handleInstallEvent`: the model, and the call that is made, if one is. -/
def SnapModel.handleInstallEvent (lib : Libraries) (m : SnapModel) : SnapModel × Option Call :=
  let status := m.attributes.get .status
  if !(m.attributes.get .isInstallable).truthy then (m, none)
  else if status = InstallState.installed.value ∨ status = InstallState.active.value then
    (m.setStatus lib .removing, some .destroy)
  else if status = InstallState.removed.value then (m.setStatus lib .installing, some .save)
  else if status = InstallState.installing.value then (m.setStatus lib .cancel, some .save)
  else (m, none)

/-- `handleEnableEvent`. -/
def SnapModel.handleEnableEvent (lib : Libraries) (m : SnapModel) : SnapModel × Option Call :=
  let status := m.attributes.get .status
  if !(m.attributes.get .isInstalled).truthy then (m, none)
  else if status = InstallState.installed.value then (m.setStatus lib .enabling, some .save)
  else if status = InstallState.active.value then (m.setStatus lib .disabling, some .save)
  else (m, none)

/-! ## What the handlers write -/

/-- The attributes of the widgets. -/
def widgetAttributes : List Attr :=
  [.installActionString, .installHTMLClass, .installButtonClass, .enableDisableActionString]

/-- The attributes that handlers write. -/
def writtenByHandlers : List Attr :=
  widgetAttributes ++ [.downloadProgress, .taskSummary, .prettyDownloadSize, .prettyInstalledSize]

lemma prettyDownloadSize_mem : Attr.prettyDownloadSize ∈ writtenByHandlers := by decide

lemma prettyInstalledSize_mem : Attr.prettyInstalledSize ∈ writtenByHandlers := by decide

lemma key_mem_of_widgets {o : Obj Attr JSValue} {u : Update Attr JSValue}
    (h : u ∈ [installActionString o, installHTMLClass o, installButtonClass o,
      enableDisableActionString o]) : u.key ∈ widgetAttributes := by
  simp only [List.mem_cons, List.not_mem_nil, or_false] at h
  rcases h with rfl | rfl | rfl | rfl
  · rw [installActionString]
    split_ifs <;> exact (by decide : Attr.installActionString ∈ widgetAttributes)
  · exact (by decide : Attr.installHTMLClass ∈ widgetAttributes)
  · exact (by decide : Attr.installButtonClass ∈ widgetAttributes)
  · exact (by decide : Attr.enableDisableActionString ∈ widgetAttributes)

lemma key_mem_of_onStatusChange {o : Obj Attr JSValue} {u : Update Attr JSValue}
    (h : u ∈ onStatusChange o) : u.key ∈ writtenByHandlers := by
  rw [onStatusChange, List.mem_append] at h
  rcases h with h | h
  · split_ifs at h
    · cases h
    · simp only [List.mem_cons, List.not_mem_nil, or_false] at h
      rcases h with rfl | rfl <;> decide
  · exact List.mem_append_left _ (key_mem_of_widgets h)

lemma frames_handlers (lib : Libraries) {k : Attr} (h : k ∉ writtenByHandlers) :
    Frames (handlers lib) k := by
  intro c hc o u hu heq
  refine h (heq ▸ ?_)
  simp only [handlers, List.mem_cons, List.not_mem_nil, or_false] at hc
  rcases hc with rfl | rfl | rfl
  · exact key_mem_of_onStatusChange hu
  · cases List.mem_singleton.mp hu
    exact prettyInstalledSize_mem
  · cases List.mem_singleton.mp hu
    exact prettyDownloadSize_mem

/-- The attributes that handlers listen to. -/
def listenedAttributes : List Attr := [.status, .installedSize, .downloadSize]

lemma key_mem_of_handlers {lib : Libraries} {c : ChangeHandler Attr JSValue}
    (hc : c ∈ handlers lib) : c.key ∈ listenedAttributes :=
  List.mem_map_of_mem (f := ChangeHandler.key) hc

/-- No handler writes what a handler listens to. -/
lemma key_not_mem_written {lib : Libraries} {c : ChangeHandler Attr JSValue}
    (hc : c ∈ handlers lib) : c.key ∉ writtenByHandlers :=
  (by decide : ∀ k ∈ listenedAttributes, k ∉ writtenByHandlers) _ (key_mem_of_handlers hc)

lemma frames_nil (k : Attr) : Frames ([] : List (ChangeHandler Attr JSValue)) k := nofun

namespace SnapModel

variable {lib : Libraries} {m : SnapModel} {k : Attr}

lemma get_set_single {hs : List (ChangeHandler Attr JSValue)} (hframes : Frames hs k) {k' : Attr}
    (hne : k ≠ k') (v : JSValue) :
    (m.set hs (single k' v)).attributes.get k = m.attributes.get k := by
  rw [Model.get_set_of_frame _ _ hframes, single, if_neg hne, Option.getD_none]

/-- Setting an attribute that no handler listens to leaves the others. -/
lemma get_set_quiet {hs : List (ChangeHandler Attr JSValue)} {k' : Attr}
    (hquiet : ∀ c ∈ hs, c.key ≠ k') (hne : k ≠ k') (v : JSValue) :
    (m.set hs (single k' v)).attributes.get k = m.attributes.get k := by
  have hunchanged : ∀ c ∈ hs, ∀ w, single k' v c.key = some w → m.attributes.get c.key = w := by
    intro c hc w hw
    rw [single, if_neg (hquiet c hc)] at hw
    cases hw
  rw [Model.attributes_set_of_unchanged m _ hunchanged, Obj.get_extend, single, if_neg hne,
    Option.getD_none]

/-- No handler listens to the texts of the sizes. -/
def QuietTexts (hs : List (ChangeHandler Attr JSValue)) : Prop :=
  ∀ c ∈ hs, c.key ≠ .prettyDownloadSize ∧ c.key ≠ .prettyInstalledSize

lemma quietTexts_nil : QuietTexts [] := fun _ hc => absurd hc List.not_mem_nil

lemma quietTexts_handlers : QuietTexts (handlers lib) := fun _ hc =>
  ⟨(ne_of_mem_of_not_mem prettyDownloadSize_mem (key_not_mem_written hc)).symm,
    (ne_of_mem_of_not_mem prettyInstalledSize_mem (key_not_mem_written hc)).symm⟩

/-- What `parse` sets on the way are the texts of the sizes. -/
lemma get_setPretty {hs : List (ChangeHandler Attr JSValue)} (hquiet : QuietTexts hs)
    (hdownload : k ≠ .prettyDownloadSize) (hinstalled : k ≠ .prettyInstalledSize) (p : Parsed) :
    (m.setPretty hs p).attributes.get k = m.attributes.get k := by
  rw [setPretty]
  cases p.prettyDownloadSize <;> cases p.prettyInstalledSize <;>
    simp only [get_set_quiet (fun c hc => (hquiet c hc).1) hdownload,
      get_set_quiet (fun c hc => (hquiet c hc).2) hinstalled]

/-- What a response leaves of an attribute that no handler writes. -/
lemma get_receive (h : k ∉ writtenByHandlers) (response : Attributes) :
    (m.receive lib response).attributes.get k
      = (toObj (parse lib response).response k).getD (m.attributes.get k) := by
  have hdownload := ne_of_mem_of_not_mem prettyDownloadSize_mem h
  have hinstalled := ne_of_mem_of_not_mem prettyInstalledSize_mem h
  rw [receive, Model.get_set_of_frame _ _ (frames_handlers lib h),
    get_setPretty quietTexts_handlers hdownload.symm hinstalled.symm]

lemma get_setStatus (h : k ∉ writtenByHandlers) (s : InstallState) :
    (m.setStatus lib s).attributes.get k
      = if k = .status then s.value else m.attributes.get k := by
  rw [setStatus, Model.get_set_of_frame _ _ (frames_handlers lib h), single]
  split_ifs <;> rfl

/-- What the constructor leaves. -/
lemma get_construct (attrs : Obj Attr JSValue) :
    (m.construct attrs).attributes.get k
      = (defaults.extend attrs k).getD (m.attributes.get k) :=
  Model.get_set_of_frame m _ (frames_nil k)

/-- Updates of what handlers write leave the other attributes. -/
lemma get_foldl_update (h : k ∉ writtenByHandlers) {us : List (Update Attr JSValue)}
    (hus : ∀ u ∈ us, u.key ∈ writtenByHandlers) (m : SnapModel) :
    (us.foldl (Model.update (handlers lib)) m).attributes.get k = m.attributes.get k := by
  induction us generalizing m with
  | nil => rfl
  | cons u us ih =>
      obtain ⟨hu, hus⟩ := List.forall_mem_cons.mp hus
      rw [List.foldl_cons, ih hus]
      exact m.get_update_of_frame (frames_handlers lib h) fun heq => h (heq ▸ hu)

/-- What adding a model to a collection leaves of an attribute that no handler writes. -/
lemma get_added (h : k ∉ writtenByHandlers) (response : Attributes) :
    (added lib response).attributes.get k
      = (defaults.extend (toObj (parse lib response).response) k).getD default := by
  have hdownload := ne_of_mem_of_not_mem prettyDownloadSize_mem h
  have hinstalled := ne_of_mem_of_not_mem prettyInstalledSize_mem h
  rw [added, get_foldl_update h fun u hu => key_mem_of_onStatusChange hu, get_construct,
    get_setPretty quietTexts_nil hdownload.symm hinstalled.symm]
  rfl

/-- The last handler of `add` has found them there. -/
lemma previous_added (h : k ∉ writtenByHandlers) (response : Attributes) :
    (added lib response).previous.get k = (added lib response).attributes.get k := by
  have hlast : ∀ (us : List (Update Attr JSValue)) (u : Update Attr JSValue) (m : SnapModel),
      (∀ u' ∈ us ++ [u], u'.key ∈ writtenByHandlers) →
      ((us ++ [u]).foldl (Model.update (handlers lib)) m).previous.get k
        = ((us ++ [u]).foldl (Model.update (handlers lib)) m).attributes.get k := by
    intro us u m hus
    rw [get_foldl_update h hus, List.foldl_append]
    exact get_foldl_update h (fun u' hu' => hus u' (List.mem_append_left _ hu')) m
  rw [added]
  set m := SnapModel.construct (setPretty [] ⟨Obj.empty, Obj.empty⟩ (parse lib response))
    (toObj (parse lib response).response) with hm
  have hsplit : onStatusChange m.attributes = ((if isTransitional (m.attributes.get .status) then []
      else [.set .downloadProgress (.num (.int 0)), .set .taskSummary (.str "")]) ++
        [installActionString m.attributes, installHTMLClass m.attributes,
          installButtonClass m.attributes]) ++ [enableDisableActionString m.attributes] := by
    rw [onStatusChange, List.append_assoc]
    rfl
  simp only [hsplit]
  refine hlast _ _ m ?_
  rw [← hsplit]
  exact fun u hu => key_mem_of_onStatusChange hu

/-- Before what a response has set, an attribute that no handler writes was as it had been. -/
lemma previous_receive (h : k ∉ writtenByHandlers) (response : Attributes) :
    (m.receive lib response).previous.get k = m.attributes.get k := by
  have hdownload := ne_of_mem_of_not_mem prettyDownloadSize_mem h
  have hinstalled := ne_of_mem_of_not_mem prettyInstalledSize_mem h
  exact get_setPretty quietTexts_handlers hdownload.symm hinstalled.symm _

end SnapModel

end Client

end Snapweb
