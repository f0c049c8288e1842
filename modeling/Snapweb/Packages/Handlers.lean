import Snapweb.Core.Responder
import Snapweb.Packages.Payload

/-!
# The packages API

`handlers.go` of the packages API: the five HTTP handlers, over the server's state.  A handler that
panics gives no response, since the HTTP server drops the connection.  Requests are served one
after another here; expiry timers may fire in between.

* `serve` — the server as a responder, from events to responses.
* `serve_tracking` — every entry of the server's tracker is one that a `Track` method stored.
-/

namespace Snapweb

/-- What `json.Unmarshal` makes of the body of an update. -/
inductive UpdateBody
  /-- not a JSON object -/
  | malformed
  /-- no key `status` -/
  | noStatus
  /-- `status` is `null`, which decodes to a nil pointer -/
  | nullStatus
  /-- `status` is neither `null` nor a string -/
  | notText
  | text (status : String)
  deriving DecidableEq, Repr

/-- A request to the packages API; a form is given by `FormValue`. -/
inductive Request
  | getAll (form : String → String)
  | get (name : String)
  | add (name : String)
  | remove (name : String)
  | update (name : String) (body : UpdateBody)

/-- The body of a response. -/
inductive ResponseBody
  | empty
  | text (s : String)
  | snap (pkg : SnapPkg)
  | snaps (pkgs : List SnapPkg)
  | operation (message package : String)
  deriving DecidableEq

/-- A response. -/
structure Response where
  code : ℕ
  body : ResponseBody
  deriving DecidableEq

/-- What serving a request leads to. -/
structure Served where
  /-- The response; `none` after a panic. -/
  response : Option Response
  calls : List SnapdCall
  server : Server

/-- The response to an operation that ended with an error or not. -/
def snapOperationResponse (name : String) (err : Option Error) : Response :=
  match err with
  | none => { code := 202, body := .operation "Accepted" name }
  | some _ => { code := 500, body := .operation "Processing error" name }

/-- What kind of listing a form asks for. -/
def snapCondition (form : String → String) : SnapCondition :=
  if form "installed_only" = "true" then .installedSnaps
  else if form "tracked_snaps" = "true" then .trackedSnaps
  else .availableSnaps

/-- List snaps. -/
def getAll (form : String → String) (env : Surroundings) (sv : Server) : Served :=
  let query := if form "q" = "" then "." else form "q"
  match allPackages env sv (snapCondition form) query (form "private_snaps" = "true")
      (form "section") with
  | (.ok payload, sv) => ⟨some { code := 200, body := .snaps payload }, [], sv⟩
  | (.error err, sv) => ⟨some { code := 500, body := .text ("Error: " ++ err) }, [], sv⟩
  | (.panic, sv) => ⟨none, [], sv⟩

/-- Describe one snap. -/
def get (name : String) (env : Surroundings) (sv : Server) : Served :=
  match packagePayload env sv name with
  | (.ok payload, sv) => ⟨some { code := 200, body := .snap payload }, [], sv⟩
  | (.error err, sv) =>
      ⟨some { code := 404, body := .text (err ++ " " ++ name ++ "\n") }, [], sv⟩
  | (.panic, sv) => ⟨none, [], sv⟩

/-- `add` and `remove`: run an operation and say how it ended. -/
def operate (op : PackageOp) (name : String) (env : Surroundings) (sv : Server) : Served :=
  let result := op.run env.client name sv.stateTracker
  let sv := { sv with stateTracker := result.tracker }
  match result.outcome with
  | .ok => ⟨some (snapOperationResponse name none), result.calls, sv⟩
  | .error err => ⟨some (snapOperationResponse name (some err)), result.calls, sv⟩
  | .panic => ⟨none, result.calls, sv⟩

/-- Install a snap. -/
def add (name : String) : Surroundings → Server → Served := operate (.start .install) name

/-- Remove a snap. -/
def remove (name : String) : Surroundings → Server → Served := operate (.start .uninstall) name

/-- The operation that an update asks for by a status. -/
def updateOp (status : String) : Option PackageOp :=
  if status = Status.enabling.text then some (.start .enable)
  else if status = Status.disabling.text then some (.start .disable)
  else if status = "cancel" then some .abort
  else none

/-- Enable or disable a snap, or abort its change. -/
def update (snapName : String) (body : UpdateBody) (env : Surroundings) (sv : Server) : Served :=
  if snapName = "" then ⟨some { code := 400, body := .empty }, [], sv⟩
  else
    match body with
    | .malformed | .noStatus | .notText => ⟨some { code := 500, body := .empty }, [], sv⟩
    | .nullStatus => ⟨none, [], sv⟩
    | .text status =>
        match updateOp status with
        | none => ⟨some (snapOperationResponse snapName none), [], sv⟩
        | some op =>
            let result := op.run env.client snapName sv.stateTracker
            let sv := { sv with stateTracker := result.tracker }
            match result.outcome with
            | .ok => ⟨some (snapOperationResponse snapName none), result.calls, sv⟩
            | .error _ => ⟨some { code := 500, body := .empty }, result.calls, sv⟩
            | .panic => ⟨none, result.calls, sv⟩

/-- Serve a request. -/
def handle (env : Surroundings) (sv : Server) : Request → Served
  | .getAll form => getAll form env sv
  | .get name => get name env sv
  | .add name => add name env sv
  | .remove name => remove name env sv
  | .update name body => update name body env sv

/-- What happens to the server: a request, or the expiry of the entry for a snap. -/
inductive Event
  | request (env : Surroundings) (req : Request)
  | expire (name : String)

/-- The server's reaction to an event: its response, and the server after it. -/
def serve (sv : Server) : Event → Option Response × Server
  | .request env req => ((handle env sv req).response, (handle env sv req).server)
  | .expire name => (none, { sv with stateTracker := sv.stateTracker.drop name })

/-- The server at its start, with the icon files that earlier runs left. -/
def Server.start (snapData : String) (files : Files) : Server :=
  { stateTracker := .new, snapData, files }

/-! ## What the server tracks -/

/-- An operation keeps what the tracker's entries are. -/
lemma StateTracker.Tracking.run {t : StateTracker} (h : t.Tracking) (op : PackageOp) (c : SnapdClient)
    (name : String) : (op.run c name t).tracker.Tracking := by
  rcases track_of_run op c name t with heq | ⟨o, changeID, snap, heq⟩ | heq <;> rw [heq]
  · exact h
  · exact h.trackMethod o changeID snap
  · rw [StateTracker.cancelTrackingFor_eq]
    exact h.drop name

/-- Losing entries keeps what the remaining ones are. -/
lemma Server.Grows.tracking {sv sv' : Server} (h : sv.Grows sv') (ht : sv.stateTracker.Tracking) :
    sv'.stateTracker.Tracking := by
  intro n e he
  rcases h.lookup n with heq | hnone
  · exact ht n e (heq ▸ he)
  · rw [hnone] at he
    cases he

/-- A listing leaves what `allPackages` leaves. -/
lemma getAll_server (form : String → String) (env : Surroundings) (sv : Server) :
    (getAll form env sv).server =
      (allPackages env sv (snapCondition form) (if form "q" = "" then "." else form "q")
        (form "private_snaps" = "true") (form "section")).2 := by
  rw [getAll]
  split <;> next heq => rw [heq]

lemma getAll_grows (form : String → String) (env : Surroundings) (sv : Server) :
    sv.Grows (getAll form env sv).server := by
  rw [getAll_server, allPackages]
  split
  · exact .refl sv
  · exact payloads_grows env sv _

lemma get_grows (name : String) (env : Surroundings) (sv : Server) :
    sv.Grows (get name env sv).server := by
  have hget : sv.Grows (packagePayload env sv name).2 := by
    rw [packagePayload]
    split
    · exact .refl sv
    · exact .refl sv
    · exact snapToPayload_grows env sv _
  rw [get]
  split <;> next heq => rwa [heq] at hget

/-- **What the server tracks.**  Every entry is an operation and the change it runs as. -/
lemma serve_tracking (sv : Server) (e : Event) (h : sv.stateTracker.Tracking) :
    (serve sv e).2.stateTracker.Tracking := by
  cases e with
  | expire name => exact h.drop name
  | request env req =>
      cases req with
      | getAll form => exact (getAll_grows form env sv).tracking h
      | get name => exact (get_grows name env sv).tracking h
      | add name =>
          simp only [serve, handle, add, operate]
          split <;> exact h.run _ _ _
      | remove name =>
          simp only [serve, handle, remove, operate]
          split <;> exact h.run _ _ _
      | update name body =>
          simp only [serve, handle, update]
          split_ifs
          · exact h
          · split
            · exact h
            · exact h
            · exact h
            · exact h
            · split
              · exact h
              · split <;> exact h.run _ _ _

end Snapweb
