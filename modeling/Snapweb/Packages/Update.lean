import Snapweb.Core.JSONPrint
import Snapweb.Packages.Handlers

/-!
# Updates

The body of an update is decoded in two stages: into a map from keys to pointers to what is written
there, of which `null` is the `nil` one, and then what is under `status` into a string.  The handler
tells `enable`, `disable` and `abortRunningOperation` apart by that string, and where it is another
one nothing is done, without an error.

* `unmarshal_of_status` — what the handler finds, from the member `status` of the body.
* `update_responds_iff` — when an update gets a response.
* `update_inOrder_iff` — when what is accepted is what has been done.
-/

namespace Snapweb

/-! ## Decoding the body -/

/-- A `*json.RawMessage`: `null` leaves the pointer `nil`. -/
def rawMessage : JSON String → Option (JSON String)
  | .null => none
  | v => some v

/-- `json.Unmarshal` into a `map[string]*json.RawMessage`: an object, or `null` for no map. -/
def unmarshalMap : JSON String → Option (List (String × Option (JSON String)))
  | .null => some []
  | .object ms => some (Members.ofPairs (ms.map fun m => (m.1, rawMessage m.2)))
  | _ => none

/-- `json.Unmarshal` into a string. -/
def unmarshalText : JSON String → Option String
  | .null => some ""
  | .string s => some s
  | _ => none

/-- What `update` makes of the bytes of a body. -/
def UpdateBody.unmarshal (body : List UInt8) : UpdateBody :=
  match (JSON.parse (UTF8.decode body)).bind unmarshalMap with
  | none => .malformed
  | some snap =>
      match Members.find "status" snap with
      | none => .noStatus
      | some none => .nullStatus
      | some (some raw) =>
          match unmarshalText raw with
          | none => .notText
          | some status => .text status

/-- `update`, with the bytes of the body. -/
def updateRequest (snapName : String) (body : List UInt8) (env : Surroundings) (sv : Server) : Served :=
  update snapName (.unmarshal body) env sv

/-- The member `status` of the body: the last one of an object. -/
def statusMember (body : List UInt8) : Option (JSON String) :=
  match JSON.parse (UTF8.decode body) with
  | some (.object ms) => Members.find "status" (Members.ofPairs ms)
  | _ => none

/-- What the handler finds where the body has a member `status`. -/
def UpdateBody.ofStatus : JSON String → UpdateBody
  | .null => .nullStatus
  | .string status => .text status
  | _ => .notText

/-- What the handler finds: where there is no member `status`, the body is refused. -/
lemma unmarshal_of_status (body : List UInt8) :
    match statusMember body with
    | none => UpdateBody.unmarshal body = .malformed ∨ UpdateBody.unmarshal body = .noStatus
    | some v => UpdateBody.unmarshal body = .ofStatus v := by
  rw [statusMember, UpdateBody.unmarshal]
  rcases JSON.parse (UTF8.decode body) with _ | v
  · exact .inl rfl
  · cases v with
    | object ms =>
        simp only [Option.bind_some, unmarshalMap, Members.ofPairs_map, Members.find_map]
        rcases Members.find "status" (Members.ofPairs ms) with _ | v
        · exact .inr rfl
        · cases v <;> rfl
    | null => exact .inr rfl
    | bool | number | string | array => exact .inl rfl

lemma unmarshal_eq_nullStatus_iff (body : List UInt8) :
    UpdateBody.unmarshal body = .nullStatus ↔ statusMember body = some .null := by
  have hbody := unmarshal_of_status body
  rcases hstatus : statusMember body with _ | v <;> rw [hstatus] at hbody
  · rcases hbody with heq | heq <;> rw [heq] <;> simp
  · rw [hbody]
    cases v <;> simp [UpdateBody.ofStatus]

lemma unmarshal_eq_text_iff (body : List UInt8) (status : String) :
    UpdateBody.unmarshal body = .text status ↔ statusMember body = some (.string status) := by
  have hbody := unmarshal_of_status body
  rcases hstatus : statusMember body with _ | v <;> rw [hstatus] at hbody
  · rcases hbody with heq | heq <;> rw [heq] <;> simp
  · rw [hbody]
    cases v <;> simp [UpdateBody.ofStatus]

/-- A body with a value in it. -/
def bodyOf (v : JSON String) : List UInt8 := UTF8.encode v.print

/-- There is a body for every value. -/
lemma parse_bodyOf {v : JSON String} (h : v.all JSON.isNumber = true) :
    JSON.parse (UTF8.decode (bodyOf v)) = some v := by
  rw [bodyOf, UTF8.decode_encode, JSON.parse_print h]

lemma statusMember_bodyOf {ms : List (String × JSON String)}
    (h : (JSON.object ms).all JSON.isNumber = true) :
    statusMember (bodyOf (.object ms)) = Members.find "status" (Members.ofPairs ms) := by
  rw [statusMember, parse_bodyOf h]

/-! ## The operations of an update -/

/-- The operations that an update can ask for. -/
def updateOps : List PackageOp := [.start .enable, .start .disable, .abort]

/-- The operation that a body asks for. -/
def UpdateBody.operation : UpdateBody → Option PackageOp
  | .text status => updateOp status
  | _ => none

lemma updateOp_isSome_iff (status : String) :
    (updateOp status).isSome ↔ status ∈ ["enabling", "disabling", "cancel"] := by
  rw [updateOp, Status.text, Status.text]
  split_ifs with h₁ h₂ h₃
  · exact iff_of_true rfl (by simp [h₁])
  · exact iff_of_true rfl (by simp [h₂])
  · exact iff_of_true rfl (by simp [h₃])
  · exact iff_of_false Bool.false_ne_true (by simp [h₁, h₂, h₃])

lemma mem_updateOps {status : String} {op : PackageOp} (h : updateOp status = some op) :
    op ∈ updateOps := by
  rw [updateOp] at h
  split_ifs at h <;> cases h <;> decide

/-- `enable` and `disable` return, and one that succeeds has called snapd once. -/
lemma switchAndTrack_returns (required : Status) (refusal : Error) (call : SnapdCall)
    (start : String × Option Error) (track : StateTracker → String → Snap → StateTracker)
    (c : SnapdClient) (name : String) (t : StateTracker) :
    let result := switchAndTrack required refusal call start track c name t
    result.outcome ≠ .panic ∧ (result.outcome = .ok → result.calls.length = 1) := by
  rw [switchAndTrack]
  rcases getSnap c name with err | _ | snap
  · exact ⟨by simp, by simp⟩
  · exact ⟨by simp, by simp⟩
  · dsimp only
    by_cases hstatus : snap.status ≠ required.text
    · rw [if_pos hstatus]
      exact ⟨by simp, by simp⟩
    · rw [if_neg hstatus]
      rcases start.2 with _ | err
      · exact ⟨by simp, fun _ => rfl⟩
      · exact ⟨by simp, by simp⟩

/-- So does `abortRunningOperation`. -/
lemma abortRunningOperation_returns (c : SnapdClient) (name : String) (t : StateTracker) :
    let result := abortRunningOperation c name t
    result.outcome ≠ .panic ∧ (result.outcome = .ok → result.calls.length = 1) := by
  rcases hsnap : getSnap c name with err | _ | snap
  · simp [abortRunningOperation, hsnap]
  · simp [abortRunningOperation, hsnap]
  · rcases htr : t.isTrackedForRunningOperation snap with ⟨_ | _, changeID⟩
    · simp [abortRunningOperation, hsnap, htr]
    · refine ⟨?_, fun _ => congrArg List.length (abort_calls hsnap htr)⟩
      simp only [abortRunningOperation, hsnap, htr]
      rcases c.abort changeID with _ | err <;> simp

/-- The operations of an update return, and one that succeeds has called snapd once. -/
lemma updateOps_return {op : PackageOp} (h : op ∈ updateOps) (c : SnapdClient) (name : String)
    (t : StateTracker) :
    (op.run c name t).outcome ≠ .panic ∧
      ((op.run c name t).outcome = .ok → (op.run c name t).calls.length = 1) := by
  simp only [updateOps, List.mem_cons, List.not_mem_nil, or_false] at h
  rcases h with rfl | rfl | rfl
  · exact switchAndTrack_returns .installed "Snap not installed and disabled" (.enable name)
      (c.enable name) StateTracker.trackEnable c name t
  · exact switchAndTrack_returns .active "Snap not installed and enabled" (.disable name)
      (c.disable name) StateTracker.trackDisable c name t
  · exact abortRunningOperation_returns c name t

/-! ## What an update comes to -/

section
variable {snapName : String} {body : UpdateBody} {env : Surroundings} {sv : Server}

/-- The server after an operation on the snap. -/
def ranOn (op : PackageOp) (snapName : String) (env : Surroundings) (sv : Server) : Server :=
  { sv with stateTracker := (op.run env.client snapName sv.stateTracker).tracker }

lemma update_unnamed : update "" body env sv = ⟨some { code := 400, body := .empty }, [], sv⟩ :=
  if_pos rfl

/-- A body that asks for an operation gets what the operation comes to. -/
lemma update_of_operation (hname : snapName ≠ "") {op : PackageOp} (hop : body.operation = some op) :
    let result := op.run env.client snapName sv.stateTracker
    update snapName body env sv =
      ⟨some (if result.outcome = .ok then snapOperationResponse snapName none
          else { code := 500, body := .empty }), result.calls, ranOn op snapName env sv⟩ := by
  cases body with
  | text status =>
      have hupdate : updateOp status = some op := hop
      have hreturns := (updateOps_return (mem_updateOps hupdate) env.client snapName sv.stateTracker).1
      simp only [update, if_neg hname, hupdate]
      rcases houtcome : (op.run env.client snapName sv.stateTracker).outcome with _ | err | _
      · rfl
      · rfl
      · exact absurd houtcome hreturns
  | malformed | noStatus | nullStatus | notText => cases hop

/-- A body that asks for no operation: it is refused, or it makes the handler panic, or it is
accepted with nothing done. -/
lemma update_of_no_operation (hname : snapName ≠ "") (hop : body.operation = none) :
    update snapName body env sv =
      ⟨match body with
        | .nullStatus => none
        | .text _ => some (snapOperationResponse snapName none)
        | _ => some { code := 500, body := .empty }, [], sv⟩ := by
  cases body with
  | text status =>
      have hupdate : updateOp status = none := hop
      simp only [update, if_neg hname, hupdate]
  | malformed | noStatus | nullStatus | notText => simp only [update, if_neg hname]

end

/-- **Responses.**  An update gets a response unless its `status` is `null`. -/
theorem update_responds_iff (snapName : String) (body : List UInt8) (env : Surroundings) (sv : Server) :
    (updateRequest snapName body env sv).response.isSome ↔
      snapName = "" ∨ statusMember body ≠ some .null := by
  rw [updateRequest, ne_eq, ← unmarshal_eq_nullStatus_iff]
  generalize UpdateBody.unmarshal body = body
  by_cases hname : snapName = ""
  · rw [hname, update_unnamed]
    exact iff_of_true rfl (.inl rfl)
  · rw [or_iff_right hname]
    rcases hop : body.operation with _ | op
    · rw [update_of_no_operation hname hop]
      cases body <;> simp
    · rw [update_of_operation hname hop]
      refine iff_of_true rfl ?_
      rintro rfl
      cases hop

/-- What is accepted has been done: the operation that the body asks for, with one call to snapd, and
it has succeeded; what has failed is answered with an error; and a body that asks for no operation is
answered with an error and changes nothing. -/
structure UpdateInOrder (snapName : String) (body : UpdateBody) (env : Surroundings) (sv : Server)
    (served : Served) : Prop where
  accepted : ∀ resp, served.response = some resp → resp.code = 202 →
    ∃ op ∈ updateOps, body.operation = some op ∧
      (op.run env.client snapName sv.stateTracker).outcome = .ok ∧
      served.calls = (op.run env.client snapName sv.stateTracker).calls ∧ served.calls.length = 1 ∧
      served.server = ranOn op snapName env sv
  failed : ∀ op, body.operation = some op →
    (op.run env.client snapName sv.stateTracker).outcome ≠ .ok →
    ∃ resp, served.response = some resp ∧ 400 ≤ resp.code
  refused : body.operation = none →
    ∃ resp, served.response = some resp ∧ 400 ≤ resp.code ∧ served.calls = [] ∧ served.server = sv

lemma update_unnamed_inOrder (body : UpdateBody) (env : Surroundings) (sv : Server) :
    UpdateInOrder "" body env sv (update "" body env sv) := by
  rw [update_unnamed]
  refine ⟨fun resp hresp hcode => ?_, fun op _ _ => ?_, fun _ => ?_⟩
  · cases hresp
    cases hcode
  · exact ⟨_, rfl, Nat.le_refl 400⟩
  · exact ⟨_, rfl, Nat.le_refl 400, rfl, rfl⟩

section
variable {snapName : String} {body : UpdateBody} {env : Surroundings} {sv : Server}

/-- A body that asks for an operation. -/
lemma update_operation_inOrder (hname : snapName ≠ "") {op : PackageOp} (hmem : op ∈ updateOps)
    (hop : body.operation = some op) :
    UpdateInOrder snapName body env sv (update snapName body env sv) := by
  rw [update_of_operation hname hop]
  refine ⟨fun resp hresp hcode => ?_, fun op' hop' hne => ?_, fun hnone => ?_⟩
  · have hok : (op.run env.client snapName sv.stateTracker).outcome = .ok := by
      by_contra hne
      rw [if_neg hne] at hresp
      cases hresp
      cases hcode
    exact ⟨op, hmem, hop, hok, rfl, (updateOps_return hmem _ _ _).2 hok, rfl⟩
  · cases hop.symm.trans hop'
    rw [if_neg hne]
    exact ⟨_, rfl, by decide⟩
  · cases hop.symm.trans hnone

/-- A body that asks for no operation is refused, unless it has a `status` that is `null` or a
text. -/
lemma update_no_operation_inOrder_iff (hname : snapName ≠ "") (hop : body.operation = none) :
    UpdateInOrder snapName body env sv (update snapName body env sv) ↔
      body ≠ .nullStatus ∧ ∀ status, body ≠ .text status := by
  rw [update_of_no_operation hname hop]
  cases body with
  | malformed | noStatus | notText =>
      refine iff_of_true ⟨fun resp hresp hcode => ?_, fun op hsome => ?_, fun _ => ?_⟩ (by simp)
      · cases hresp
        cases hcode
      · cases hsome
      · exact ⟨_, rfl, by decide, rfl, rfl⟩
  | nullStatus =>
      refine iff_of_false (fun h => ?_) fun h => h.1 rfl
      obtain ⟨resp, hresp, -⟩ := h.refused rfl
      cases hresp
  | text status =>
      refine iff_of_false (fun h => ?_) fun h => h.2 status rfl
      obtain ⟨op, -, hsome, -⟩ := h.accepted _ rfl rfl
      cases hop.symm.trans hsome

end

/-- **Accepted updates.**  What is accepted has been done, and everything else is refused, unless the
`status` is `null` or a text that stands for no operation. -/
theorem update_inOrder_iff (snapName : String) (body : List UInt8) (env : Surroundings) (sv : Server) :
    UpdateInOrder snapName (.unmarshal body) env sv (updateRequest snapName body env sv) ↔
      snapName = "" ∨ (statusMember body ≠ some .null ∧
        ∀ status, statusMember body = some (.string status) →
          status ∈ ["enabling", "disabling", "cancel"]) := by
  simp only [updateRequest, ne_eq, ← unmarshal_eq_nullStatus_iff, ← unmarshal_eq_text_iff,
    ← updateOp_isSome_iff]
  generalize UpdateBody.unmarshal body = body
  by_cases hname : snapName = ""
  · rw [hname]
    exact iff_of_true (update_unnamed_inOrder body env sv) (.inl rfl)
  rw [or_iff_right hname]
  rcases hop : body.operation with _ | op
  · rw [update_no_operation_inOrder_iff hname hop, and_congr_right_iff]
    refine fun _ => forall_congr' fun status => imp_congr_right ?_
    rintro rfl
    rw [show updateOp status = none from hop]
    exact iff_of_false id Bool.false_ne_true
  · cases body with
    | text status =>
        have hupdate : updateOp status = some op := hop
        refine iff_of_true (update_operation_inOrder hname (mem_updateOps hupdate) hop) ?_
        refine ⟨UpdateBody.noConfusion, ?_⟩
        rintro _ ⟨rfl⟩
        rw [hupdate]
        rfl
    | malformed | noStatus | nullStatus | notText => cases hop

/-! ## Bodies that are not in order -/

/-- The surroundings of a request when snapd cannot be reached. -/
def unreachable : Surroundings :=
  { client :=
      { SnapdClient.knowing { name := "hello-world", status := clientStatusActive } "1" with
        snap := fun _ => .error "cannot communicate with server"
        findOne := fun _ => .error "cannot communicate with server" }
    mkdirAll := false
    write := fun _ => .refused }

/-- An update with a `status`. -/
def statusBody (v : JSON String) : List UInt8 := bodyOf (.object [("status", v)])

lemma statusMember_statusBody {v : JSON String} (h : v.all JSON.isNumber = true) :
    statusMember (statusBody v) = some v := by
  rw [statusBody, statusMember_bodyOf (JSON.allMembers_eq_true.mpr fun m hm => ?_)]
  · rfl
  · rw [List.mem_singleton.mp hm]
    exact h

/-- Nothing has been done, and it is accepted. -/
theorem update_frobnicate_accepted :
    let body := statusBody (.string "frobnicate")
    let served := updateRequest "hello-world" body unreachable (Server.start "" ∅)
    served.response = some (snapOperationResponse "hello-world" none) ∧ served.calls = [] ∧
      ¬ UpdateInOrder "hello-world" (.unmarshal body) unreachable (Server.start "" ∅) served := by
  have hbody : UpdateBody.unmarshal (statusBody (.string "frobnicate")) = .text "frobnicate" :=
    (unmarshal_eq_text_iff _ _).mpr (statusMember_statusBody rfl)
  dsimp only
  rw [updateRequest, hbody]
  refine ⟨rfl, rfl, fun h => ?_⟩
  obtain ⟨op, -, hop, -⟩ := h.accepted _ rfl rfl
  cases hop

/-- No response. -/
theorem update_null_panics :
    (updateRequest "hello-world" (statusBody .null) unreachable (Server.start "" ∅)).response
      = none := by
  have hbody : UpdateBody.unmarshal (statusBody .null) = .nullStatus :=
    (unmarshal_eq_nullStatus_iff _).mpr (statusMember_statusBody rfl)
  rw [updateRequest, hbody]
  rfl

end Snapweb
