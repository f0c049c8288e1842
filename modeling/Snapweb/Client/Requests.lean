import Snapweb.Client.SnapEvents
import Snapweb.Core.Percent
import Snapweb.Server.Access
import Snapweb.Server.Routes

/-!
# What a click does on the server

The requests that Backbone sends for the snap model, and where they get to: from a click, over the
URL that the model has, to the operation that the server performs.

* `SnapModel.statusMember_of_stringified` — the status that a saved model shows the server.
* `click_performs_iff` — a click performs the operation that its status names, on the snap of the
  model's id, exactly if the id is plain.
-/

namespace Snapweb

namespace Client

open Backbone

/-! ## `JSON.stringify` -/

/-- The name of an attribute. -/
def Attr.key : Attr → String
  | id => "id"
  | name => "name"
  | developer => "developer"
  | version => "version"
  | description => "description"
  | icon => "icon"
  | state => "state"
  | price => "price"
  | installedSize => "installed_size"
  | downloadSize => "download_size"
  | type => "type"
  | isPrivate => "private"
  | channel => "channel"
  | installDate => "install_date"
  | package => "package"
  | message => "message"
  | status => "status"
  | taskSummary => "task_summary"
  | downloadProgress => "download_progress"
  | isInstalled => "isInstalled"
  | isEnabled => "isEnabled"
  | isInstallable => "isInstallable"
  | priced => "priced"
  | isCoreSnap => "isCoreSnap"
  | prettyDownloadSize => "prettyDownloadSize"
  | prettyInstalledSize => "prettyInstalledSize"
  | installActionString => "installActionString"
  | installHTMLClass => "installHTMLClass"
  | installButtonClass => "installButtonClass"
  | enableDisableActionString => "enableDisableActionString"

/-- All attributes. -/
def Attr.all : List Attr :=
  [id, name, developer, version, description, icon, state, price, installedSize, downloadSize, type,
    isPrivate, channel, installDate, package, message, status, taskSummary, downloadProgress,
    isInstalled, isEnabled, isInstallable, priced, isCoreSnap, prettyDownloadSize,
    prettyInstalledSize, installActionString, installHTMLClass, installButtonClass,
    enableDisableActionString]

/-- The member `state` of a model. -/
def stateJSON (s : StateMember) : JSON String :=
  .object ([("status", .string s.status), ("task_summary", .string s.taskSummary)] ++
    (s.localSize.map fun size => ("local_size", JSON.number (toString size))).toList)

/-- A value as JSON; `undefined` is left out, and what is no number is `null`. -/
def JSValue.json : JSValue → Option (JSON String)
  | undefined => none
  | bool b => some (.bool b)
  | num (.int z) => some (.number (toString z))
  | num _ => some .null
  | str s => some (.string s)
  | state s => some (stateJSON s)

/-- The member of an attribute. -/
def SnapModel.member (m : SnapModel) (k : Attr) : Option (String × JSON String) :=
  ((m.attributes k).bind JSValue.json).map fun v => (k.key, v)

/-- `toJSON`, in the order of the attributes here. -/
def SnapModel.toJSON (m : SnapModel) : List (String × JSON String) := Attr.all.filterMap m.member

/-- The body is a text of the model: it has the model's attributes, in any order. -/
def SnapModel.Stringified (m : SnapModel) (body : List UInt8) : Prop :=
  ∃ ms, ms.Perm m.toJSON ∧ JSON.parse (UTF8.decode body) = some (.object ms)

lemma Attr.mem_all (k : Attr) : k ∈ Attr.all := by
  cases k <;> decide

namespace SnapModel

variable {m : SnapModel}

/-- The members' names are distinct. -/
lemma nodup_toJSON : (m.toJSON.map Prod.fst).Nodup := by
  have hsub : ∀ ks : List Attr, ((ks.filterMap m.member).map Prod.fst).Sublist (ks.map Attr.key) := by
    intro ks
    induction ks with
    | nil => exact List.Sublist.slnil
    | cons k ks ih =>
        rw [List.filterMap_cons, List.map_cons]
        split
        · exact ih.cons _
        · next hmember =>
            obtain ⟨v, -, rfl⟩ := Option.map_eq_some_iff.mp hmember
            exact ih.cons_cons _
  exact (hsub Attr.all).nodup (by decide)

lemma mem_toJSON {k : Attr} {v : JSON String} (h : (m.attributes k).bind JSValue.json = some v) :
    (k.key, v) ∈ m.toJSON :=
  List.mem_filterMap.mpr ⟨k, k.mem_all, by rw [member, h]; rfl⟩

/-- The status that a saved model shows the server. -/
lemma statusMember_of_stringified {body : List UInt8} (hbody : m.Stringified body) {status : String}
    (hstatus : m.attributes.get .status = .str status) :
    statusMember body = some (.string status) := by
  obtain ⟨ms, hperm, hparse⟩ := hbody
  have hattr : m.attributes .status = some (.str status) := by
    rw [Obj.get] at hstatus
    cases h : m.attributes .status with
    | none =>
        rw [h] at hstatus
        cases hstatus
    | some v =>
        rw [h] at hstatus
        exact congrArg some hstatus
  have hnodup : (ms.map Prod.fst).Nodup := (hperm.map Prod.fst).nodup_iff.mpr nodup_toJSON
  have hmem : ("status", JSON.string status) ∈ ms :=
    hperm.mem_iff.mpr (mem_toJSON (k := .status) (by rw [hattr]; rfl))
  rw [statusMember, hparse]
  dsimp only
  rw [Members.ofPairs_of_nodup hnodup, Members.find_eq_some_iff hnodup]
  exact hmem

end SnapModel

/-! ## Requests -/

/-- The clicks: on the button of the installer, and on that of the enabler. -/
inductive Click
  | install
  | enable
  deriving DecidableEq, Repr

/-- What a click makes of the model, and the call that it makes. -/
def Click.handle (lib : Libraries) (m : SnapModel) : Click → SnapModel × Option Call
  | install => m.handleInstallEvent lib
  | enable => m.handleEnableEvent lib

/-- The option `type` of the call. -/
def Click.callType (m : SnapModel) : Click → Option String
  | install =>
      if m.attributes.get .status = InstallState.installing.value then some "post" else none
  | enable => some "post"

/-- The method of a call: the one of `Backbone.sync`, unless there is an option, which jQuery turns
into capitals. -/
def callMethod : Call → Option String → String
  | _, some type => String.ofList (type.toList.map Char.toUpper)
  | .save, none => "PUT"
  | .destroy, none => "DELETE"

lemma callMethod_post (call : Call) : callMethod call (some "post") = "POST" := by
  cases call <;> decide

/-- `CONF.PACKAGES`, by the names of its directories. -/
def packagesDirs : List String := ["api", "v2", "packages"]

/-- The request that a call sends for a model, with the path that the server reads. -/
structure Sends (m : SnapModel) (call : Call) (type : Option String) (r : HTTPRequest) : Prop where
  method : r.method = callMethod call type
  path : ∃ id, m.attributes.get .id = .str id ∧ URL.requested packagesDirs id = some r.path
  body : call = .save → m.Stringified r.body

example : URL.directory packagesDirs = "/api/v2/packages/" := by decide

/-- The operation that a status asks for. -/
def InstallState.operation : InstallState → Option PackageOp
  | removing => some (.start .uninstall)
  | installing => some (.start .install)
  | cancel => some .abort
  | enabling => some (.start .enable)
  | disabling => some (.start .disable)
  | _ => none

/-- The endpoint that serves an operation. -/
def endpointOf : PackageOp → Endpoint
  | .start .uninstall => .remove
  | .start .install => .add
  | _ => .update

/-- What a click that makes a call comes to: a status that stands for an operation, and a request
with the method of the operation's endpoint. -/
lemma click_cases {lib : Libraries} {m m' : SnapModel} {click : Click} {call : Call}
    (h : click.handle lib m = (m', some call)) :
    ∃ state op, m' = m.setStatus lib state ∧ state.operation = some op ∧
      (endpointOf op).namedMethod = some (callMethod call (click.callType m)) ∧
      (endpointOf op = .update → call = .save ∧ updateOp state.text = some op) := by
  cases click with
  | install =>
      simp only [Click.handle, SnapModel.handleInstallEvent] at h
      split_ifs at h with hinstallable hinstalled hremoved hinstalling
      · cases h
      · cases h
        have hne : m.attributes.get .status ≠ InstallState.installing.value := by
          rcases hinstalled with heq | heq <;> rw [heq] <;> decide
        refine ⟨.removing, .start .uninstall, rfl, rfl, ?_, nofun⟩
        rw [Click.callType, if_neg hne]
        rfl
      · cases h
        have hne : m.attributes.get .status ≠ InstallState.installing.value := by
          rw [hremoved]
          decide
        refine ⟨.installing, .start .install, rfl, rfl, ?_, nofun⟩
        rw [Click.callType, if_neg hne]
        rfl
      · cases h
        refine ⟨.cancel, .abort, rfl, rfl, ?_, fun _ => ⟨rfl, rfl⟩⟩
        rw [Click.callType, if_pos hinstalling, callMethod_post]
        rfl
      · cases h
  | enable =>
      simp only [Click.handle, SnapModel.handleEnableEvent] at h
      split_ifs at h with hinstalled hoff hon
      · cases h
      · cases h
        exact ⟨.enabling, .start .enable, rfl, rfl, congrArg some (callMethod_post _).symm,
          fun _ => ⟨rfl, rfl⟩⟩
      · cases h
        exact ⟨.disabling, .start .disable, rfl, rfl, congrArg some (callMethod_post _).symm,
          fun _ => ⟨rfl, rfl⟩⟩
      · cases h

/-- What the server reads for the URL of a model with an id. -/
lemma requested_packagesDirs (id : String) :
    URL.requested packagesDirs id = some (
      if id = ".." then "/api/v2/"
      else if id = "." then packagePath ""
      else packagePath id) := by
  have habove : URL.directory packagesDirs.dropLast = "/api/v2/" := by decide
  have hdirectory : URL.directory packagesDirs = "/api/v2/packages/" := by decide
  rw [URL.requested_eq (by decide) (by decide), habove, hdirectory]
  rfl

/-- For a plain id, it is the path of the snap. -/
lemma requested_of_plain {id : String} (h : Filepath.IsPlain id.toList) :
    URL.requested packagesDirs id = some (packagePath id) := by
  rw [requested_packagesDirs, if_neg, if_neg]
  · exact fun heq => h.ne_dot (by rw [heq]; rfl)
  · exact fun heq => h.ne_dotdot (by rw [heq]; rfl)

/-- For another id, it is the path of no snap with a plain name. -/
lemma plain_of_requested {id name : String} (hname : Filepath.IsPlain name.toList)
    (h : URL.requested packagesDirs id = some (packagePath name)) : Filepath.IsPlain id.toList := by
  rw [requested_packagesDirs, Option.some_inj] at h
  split_ifs at h with hup hhere
  · -- what is above the snaps is too short
    have hlength := congrArg String.length h
    have habove : "/api/v2/".length = 8 := by decide
    have hlong : (packagePath name).length = 17 + name.length := by
      rw [packagePath, String.length_append]
      rfl
    omega
  · rw [packagePath_inj] at h
    rw [← h] at hname
    exact absurd rfl hname.ne_nil
  · rw [packagePath_inj.mp h]
    exact hname

/-! ## Operations -/

/-- The operation is performed: it is run on the snap of the name, nothing else is changed, and the
answer says whether it has been accepted. -/
structure Performs (op : PackageOp) (name : String) (s : API) (answer : Answer APIReply) (s' : API) :
    Prop where
  state : s' = { s with server := ranOn op name s.env s.server }
  answered : ∃ response, answer = .api (.packages response) ∧
    ((∃ resp ∈ response, resp.code = 202) ↔
      (op.run s.env.client name s.server.stateTracker).outcome = .ok)

/-- `add` and `remove`. -/
lemma operate_performs (op : PackageOp) (name : String) (s : API) :
    Performs op name s (.api (.packages (operate op name s.env s.server).response))
      { s with server := (operate op name s.env s.server).server } := by
  rcases houtcome : (op.run s.env.client name s.server.stateTracker).outcome with _ | err | _ <;>
    refine ⟨?_, _, rfl, ?_⟩ <;> simp [operate, houtcome, ranOn, snapOperationResponse]

/-- `update`. -/
lemma update_performs {op : PackageOp} {name : String} (hname : name ≠ "") {body : UpdateBody}
    (hop : body.operation = some op) (s : API) :
    Performs op name s (.api (.packages (update name body s.env s.server).response))
      { s with server := (update name body s.env s.server).server } := by
  have hupdate : update name body s.env s.server = _ := update_of_operation hname hop
  rw [hupdate]
  refine ⟨rfl, _, rfl, ?_⟩
  dsimp only
  split_ifs with hok
  · exact iff_of_true ⟨_, rfl, rfl⟩ hok
  · refine iff_of_false ?_ hok
    rintro ⟨resp, hresp, hcode⟩
    cases hresp
    cases hcode

/-- What the endpoint of an operation does with a request. -/
lemma endpoint_performs {op : PackageOp} {name : String} (hname : name ≠ "")
    (form : HTTPRequest → String → String) {r : HTTPRequest}
    (hbody : endpointOf op = .update → (UpdateBody.unmarshal r.body).operation = some op) (s : API) :
    ∃ req, packagesRequest form r [("name", name)] (endpointOf op) = some req ∧
      Performs op name s (.api (.packages (handle s.env s.server req).response))
        { s with server := (handle s.env s.server req).server } := by
  rcases op with (- | - | - | -) | -
  · exact ⟨.add name, rfl, operate_performs _ _ _⟩
  · exact ⟨.remove name, rfl, operate_performs _ _ _⟩
  · exact ⟨.update name _, rfl, update_performs hname (hbody rfl) s⟩
  · exact ⟨.update name _, rfl, update_performs hname (hbody rfl) s⟩
  · exact ⟨.update name _, rfl, update_performs hname (hbody rfl) s⟩

section
variable {site : Site API APIReply} {tokens : ℕ → List Char} {mux : Mux Endpoint}
  {form : HTTPRequest → String → String} {s : SiteState API} {r : HTTPRequest}

/-- What the packages API answers to another request than a `GET` is for a plain id. -/
lemma plain_of_answered (hmux : mux.Documented) (hrouter : site.router = apiRouter mux form)
    (hget : r.method ≠ "GET") {id : String} (hpath : URL.requested packagesDirs id = some r.path)
    {response : Option Response}
    (h : (site.mainHandler tokens s r).1 = .api (.packages response)) :
    Filepath.IsPlain id.toList := by
  have hreply := Site.mainHandler_of_api h
  rw [hrouter] at hreply
  obtain ⟨name, hname, hpath'⟩ := named_of_packages hmux hget (congrArg Prod.fst hreply)
  exact plain_of_requested hname (hpath' ▸ hpath)

/-- What it does not answer leaves everything behind the token as it is. -/
lemma inside_of_not_packages (hrouter : site.router = apiRouter mux form)
    (h : ∀ response, (site.mainHandler tokens s r).1 ≠ .api (.packages response)) :
    (site.mainHandler tokens s r).2.inside = s.inside := by
  by_cases hanswer : ∃ reply, (site.mainHandler tokens s r).1 = .api reply
  · obtain ⟨reply, hanswer⟩ := hanswer
    have hreply := Site.mainHandler_of_api hanswer
    rw [hrouter] at hreply
    have hne : ∀ response, (apiRouter mux form r s.inside).1 ≠ .packages response := by
      intro response heq
      rw [hreply] at heq
      cases heq
      exact h response hanswer
    exact (congrArg Prod.snd hreply).symm.trans (apiRouter_of_ne hne)
  · exact Site.inside_of_refused (not_exists.mp hanswer)

/-- A request for a snap with a plain name, with the method of an endpoint, is served by it. -/
lemma mainHandler_named (hmux : mux.Documented) (hrouter : site.router = apiRouter mux form)
    (hpasses : site.Passes s r)
    (henters : entersRouter site.config (Site.tokenContent tokens s) r.cookies = true) {e : Endpoint}
    (hmethod : e.namedMethod = some r.method) {name : String} (hname : Filepath.IsPlain name.toList)
    (hpath : r.path = packagePath name) {req : Snapweb.Request}
    (hreq : packagesRequest form r [("name", name)] e = some req) :
    (site.mainHandler tokens s r).1
        = .api (.packages (handle s.inside.env s.inside.server req).response) ∧
      (site.mainHandler tokens s r).2.inside
        = { s.inside with server := (handle s.inside.env s.inside.server req).server } := by
  have hadmitted : HTTP.Admitted r.method r.path := by
    rw [hpath]
    refine ⟨fun heq => ?_, .inr (cleanPath_packagePath hname)⟩
    have hstar := congrArg String.toList heq
    rw [toList_packagePath] at hstar
    cases hstar
  have hin : HTTP.InSubtree "api" r.path := by
    rw [hpath, HTTP.inSubtree_iff, toList_packagePath]
    exact ⟨"v2/packages/".toList ++ name.toList, rfl⟩
  have hrouted := Site.mainHandler_routed hpasses hadmitted hin henters
  rw [hrouter, apiRouter_named hmux hmethod hname hpath hreq] at hrouted
  exact hrouted

end

/-- **What a click does.**  A click that makes a call shows it by the model's status, which stands for
an operation.  Where the request passes the filter, and has the token: the server performs the
operation on the snap of the model's id exactly if the id is plain (it is not empty, no dots, and has
no slash), and otherwise nothing is changed. -/
theorem click_performs_iff (site : Site API APIReply) (tokens : ℕ → List Char) {mux : Mux Endpoint}
    (hmux : mux.Documented) {form : HTTPRequest → String → String}
    (hrouter : site.router = apiRouter mux form) (s : SiteState API) (lib : Libraries)
    {m m' : SnapModel} {click : Click} {call : Call} (hclick : click.handle lib m = (m', some call))
    {id : String} (hid : m.attributes.get .id = .str id) {r : HTTPRequest}
    (hsends : Sends m' call (click.callType m) r) (hpasses : site.Passes s r)
    (henters : entersRouter site.config (Site.tokenContent tokens s) r.cookies = true) :
    ∃ (state : InstallState) (op : PackageOp), m'.attributes.get .status = state.value ∧
      state.operation = some op ∧
      (Performs op id s.inside (site.mainHandler tokens s r).1 (site.mainHandler tokens s r).2.inside ↔
        Filepath.IsPlain id.toList) ∧
      (¬ Filepath.IsPlain id.toList → (site.mainHandler tokens s r).2.inside = s.inside) := by
  obtain ⟨state, op, rfl, hop, hmethod, hupdate⟩ := click_cases hclick
  have hstatus : (m.setStatus lib state).attributes.get .status = state.value := by
    rw [SnapModel.get_setStatus (by decide), if_pos rfl]
  refine ⟨state, op, hstatus, hop, ?_⟩
  rw [← hsends.method] at hmethod
  have hrequested : URL.requested packagesDirs id = some r.path := by
    obtain ⟨id', hid', hpath⟩ := hsends.path
    rw [SnapModel.get_setStatus (by decide), if_neg (by decide), hid] at hid'
    cases hid'
    exact hpath
  have hget : r.method ≠ "GET" := by
    intro hget
    have hne : ∀ op, (endpointOf op).namedMethod ≠ some "GET" := by
      rintro ((- | - | - | -) | -) <;> decide
    exact hne op (hget ▸ hmethod)
  refine ⟨⟨?_, ?_⟩, ?_⟩
  · rintro ⟨-, response, hanswer, -⟩
    exact plain_of_answered hmux hrouter hget hrequested hanswer
  · intro hplain
    have hpath : r.path = packagePath id :=
      Option.some_inj.mp (hrequested.symm.trans (requested_of_plain hplain))
    have hne : id ≠ "" := fun h => hplain.ne_nil (by rw [h]; rfl)
    have hbody : endpointOf op = .update → (UpdateBody.unmarshal r.body).operation = some op := by
      intro hendpoint
      obtain ⟨hsave, hupdate⟩ := hupdate hendpoint
      have hmember := SnapModel.statusMember_of_stringified (hsends.body hsave) hstatus
      rw [(unmarshal_eq_text_iff _ _).mpr hmember]
      exact hupdate
    obtain ⟨req, hreq, hperforms⟩ := endpoint_performs hne form hbody s.inside
    obtain ⟨hanswer, hinside⟩ :=
      mainHandler_named hmux hrouter hpasses henters hmethod hplain hpath hreq
    rw [hanswer, hinside]
    exact hperforms
  · intro hplain
    refine inside_of_not_packages hrouter fun response hanswer => hplain ?_
    exact plain_of_answered hmux hrouter hget hrequested hanswer

/-- A site with the packages API behind the token. -/
def packagesSite : Site API APIReply where
  text := Site.smallSite.text
  config := Site.smallSite.config
  snap := Site.smallSite.snap
  env := Site.smallSite.env
  server := Site.smallSite.server
  router := apiRouter Mux.plain fun _ _ => ""
  disk _ _ := none

/-- Its state when the token has been written. -/
def packagesState : SiteState API :=
  packagesSite.start NetFilter.machineAtTen (some (0, 64))
    { env := packagesSite.env, server := packagesSite.server }

/-- A model of an active snap. -/
def activeModel : SnapModel :=
  let attributes := toObj
    { id := some "hello-world", status := some "active", isInstalled := some true }
  ⟨attributes, attributes⟩

/-- The request of a click on the enabler. -/
def disablingRequest : HTTPRequest :=
  { Site.requestTo "POST" "/api/v2/packages/hello-world" with
    cookies := [("SM", ['t'])]
    body := bodyOf (.object (Click.enable.handle plainLibraries activeModel).1.toJSON) }

/-- The snap is disabled. -/
theorem disabling_click_performs :
    Performs (.start .disable) "hello-world" packagesState.inside
      (packagesSite.mainHandler (fun _ => ['t']) packagesState disablingRequest).1
      (packagesSite.mainHandler (fun _ => ['t']) packagesState disablingRequest).2.inside := by
  have hclick : Click.enable.handle plainLibraries activeModel
      = ((Click.enable.handle plainLibraries activeModel).1, some .save) := rfl
  have hsends : Sends (Click.enable.handle plainLibraries activeModel).1 .save
      (Click.enable.callType activeModel) disablingRequest :=
    ⟨by decide, ⟨"hello-world", rfl, by decide⟩, fun _ => ⟨_, .refl _, parse_bodyOf (by decide)⟩⟩
  obtain ⟨state, op, hstatus, hop, hperforms, -⟩ :=
    click_performs_iff packagesSite (fun _ => ['t']) Mux.plain_documented rfl packagesState
      plainLibraries hclick rfl hsends rfl (by decide)
  have hdisabling : state = .disabling := by
    cases state <;> first | rfl | exact absurd hstatus (by decide)
  rw [hdisabling] at hop
  cases hop
  exact hperforms.mpr ⟨by decide, by decide, by decide, by decide⟩

end Client

end Snapweb
