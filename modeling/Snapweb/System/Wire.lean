import Snapweb.Core.JSONEncode
import Snapweb.System.Settling

/-!
# What comes over the wire

The bodies of the responses as bytes, and what the browser makes of them: from a payload on the
server, over Go's `json.Encoder` and `JSON.parse`, to the attributes that the model gets.  Numbers are
read as JavaScript has them, whole ones exactly up to 2 ^ 53.

* `readAttributes_fields` — a payload arrives with the attributes that `SnapPkg.encode` says.
* `readMessage_wire` — the message of an error arrives.
* `run_isRead` — along every run of a page, what the browser makes of the bytes of an answer is the
  model that `Page` goes on with.
-/

namespace Snapweb

/-! ## Encoding -/

/-- The members of `SnapState`. -/
def PackageState.fields (s : PackageState) : List (String × Option (JSON String)) :=
  [ ("status", some (.string s.status)),
    ("task_summary", some (.string s.taskSummary)),
    ("local_size",
      (omitEmpty 0 s.localSize.toNat).map fun n : ℕ => .number (toString (n : ℤ))) ]

/-- The members of `snapPkg`, in order; `message` and `progress` are never set. -/
def SnapPkg.fields (pkg : SnapPkg) : List (String × Option (JSON String)) :=
  [ ("id", some (.string pkg.id)),
    ("name", some (.string pkg.name)),
    ("developer", some (.string pkg.developer)),
    ("version", some (.string pkg.version)),
    ("description", some (.string pkg.description)),
    ("icon", some (.string pkg.icon)),
    ("state", some (.object (Members.present pkg.state.fields))),
    ("price", (omitEmpty "" pkg.price).map .string),
    ("installed_size", (omitEmpty 0 pkg.installedSize.toInt).map fun z => .number (toString z)),
    ("download_size", (omitEmpty 0 pkg.downloadSize.toInt).map fun z => .number (toString z)),
    ("type", (omitEmpty "" pkg.type).map .string),
    ("private", some (.bool pkg.isPrivate)),
    ("channel", some (.string pkg.channel)),
    ("install_date", some (.string pkg.installDate)) ]

/-- A payload, as a JSON value. -/
def SnapPkg.json (pkg : SnapPkg) : JSON String := .object (Members.present pkg.fields)

/-- The body of a response, as it is written. -/
def ResponseBody.wire : ResponseBody → List UInt8
  | .empty => []
  | .text s => UTF8.encode s.toList
  | .snap pkg => UTF8.encode pkg.json.encode
  | .snaps pkgs => UTF8.encode (JSON.array (pkgs.map SnapPkg.json)).encode
  | .operation message package =>
      UTF8.encode (JSON.object [("package", .string package), ("message", .string message)]).encode

namespace Client

/-! ## Reading -/

/-- The member of an object. -/
def member (k : String) (ms : List (String × JSON String)) : Option (JSON String) :=
  Members.find k (Members.ofPairs ms)

/-- The value is a string. -/
def asString : JSON String → Option String
  | .string s => some s
  | _ => none

/-- The value is a boolean. -/
def asBool : JSON String → Option Bool
  | .bool b => some b
  | _ => none

/-- The value is an object. -/
def asObject : JSON String → Option (List (String × JSON String))
  | .object ms => some ms
  | _ => none

/-- The member of an object that is a string. -/
def stringMember (k : String) (ms : List (String × JSON String)) : Option String :=
  (member k ms).bind asString

section
variable (number : String → ℤ)

/-- The value is a number. -/
def asNumber : JSON String → Option ℤ
  | .number text => some (number text)
  | _ => none

/-- The member of an object that is a number. -/
def numberMember (k : String) (ms : List (String × JSON String)) : Option ℤ :=
  (member k ms).bind (asNumber number)

/-- A state that has been received. -/
def readState (ms : List (String × JSON String)) : Option StateMember := do
  let status ← stringMember "status" ms
  let taskSummary ← stringMember "task_summary" ms
  some { status, taskSummary, localSize := (numberMember number "local_size" ms).map Int.toNat }

/-- The attributes of an object that has been received. -/
def readAttributes (ms : List (String × JSON String)) : Attributes where
  id := stringMember "id" ms
  name := stringMember "name" ms
  developer := stringMember "developer" ms
  version := stringMember "version" ms
  description := stringMember "description" ms
  icon := stringMember "icon" ms
  state := ((member "state" ms).bind asObject).bind (readState number)
  price := stringMember "price" ms
  installedSize := numberMember number "installed_size" ms
  downloadSize := numberMember number "download_size" ms
  type := stringMember "type" ms
  isPrivate := (member "private" ms).bind asBool
  channel := stringMember "channel" ms
  installDate := stringMember "install_date" ms
  package := stringMember "package" ms
  message := stringMember "message" ms

/-- The message of an error: that of the response's object, or its text. -/
def readMessage (body : List UInt8) : Option String :=
  match JSON.parse (UTF8.decode body) with
  | none => some (String.ofList (UTF8.decode body))
  | some (.object ms) => stringMember "message" ms
  | some _ => none

namespace PolledSnap

/-- An answer gets to the browser.  With a code of success its body is parsed as JSON, and what it is
goes to the model, but for the answer to a removal; anything else is an error. -/
def handleAnswer (lib : Libraries) (s : PolledSnap) (i code : ℕ) (body : List UInt8) :
    Option PolledSnap :=
  if 200 ≤ code ∧ code < 300 then
    match JSON.parse (UTF8.decode body) with
    | none => s.next lib (.fail i false (readMessage body))
    | some (.object ms) =>
        let attributes := readAttributes number ms
        match s.requests[i]? with
        | some .fetch => some ((s.finish i (s.model.receive lib attributes)).overtake s.status).synced
        | some (.save _ _) => some (s.finish i (s.model.receive lib attributes)).synced
        | some .destroy => some (s.finish i s.model).synced
        | none => none
    | some _ => none
  else s.next lib (.fail i (code = 404) (readMessage body))

end PolledSnap

end

/-- What is documented of numbers: whole ones are read exactly, up to 2 ^ 53. -/
def ExactNumbers (number : String → ℤ) : Prop :=
  ∀ z : ℤ, z.natAbs ≤ 2 ^ 53 → number (toString z) = z

/-- The sizes of a payload are numbers that are read exactly. -/
structure SafeSizes (pkg : SnapPkg) : Prop where
  localSize : pkg.state.localSize.toNat ≤ 2 ^ 53
  installedSize : pkg.installedSize.toInt.natAbs ≤ 2 ^ 53
  downloadSize : pkg.downloadSize.toInt.natAbs ≤ 2 ^ 53

/-! ## A payload arrives -/

section
variable {number : String → ℤ}

/-- A member that may have been left out. -/
lemma member_present {fields : List (String × Option (JSON String))}
    (h : (fields.map Prod.fst).Nodup) (k : String) :
    member k (Members.present fields) = (Members.find k fields).join :=
  Members.find_present h k

@[simp] lemma bind_asString (o : Option String) : (o.map JSON.string).bind asString = o := by
  cases o <;> rfl

lemma ExactNumbers.bind_asNumber (h : ExactNumbers number) {z : ℤ} (hz : z.natAbs ≤ 2 ^ 53) :
    ((omitEmpty 0 z).map fun z => JSON.number (toString z)).bind (asNumber number)
      = omitEmpty 0 z := by
  rw [omitEmpty]
  split_ifs
  · rfl
  · exact congrArg some (h z hz)

/-- The state arrives. -/
lemma readState_fields (h : ExactNumbers number) {s : PackageState}
    (hsize : s.localSize.toNat ≤ 2 ^ 53) :
    readState number (Members.present s.fields) = some
      { status := s.status
        taskSummary := s.taskSummary
        localSize := omitEmpty 0 s.localSize.toNat } := by
  have hnodup : (s.fields.map Prod.fst).Nodup := by
    show ["status", "task_summary", "local_size"].Nodup
    decide
  have hstatus : stringMember "status" (Members.present s.fields) = some s.status := by
    rw [stringMember, member_present hnodup]
    rfl
  have hsummary : stringMember "task_summary" (Members.present s.fields) = some s.taskSummary := by
    rw [stringMember, member_present hnodup]
    rfl
  have hlocal : (numberMember number "local_size" (Members.present s.fields)).map Int.toNat
      = omitEmpty 0 s.localSize.toNat := by
    rw [numberMember, member_present hnodup]
    show (((omitEmpty 0 s.localSize.toNat).map fun n : ℕ => JSON.number (toString (n : ℤ))).bind
      (asNumber number)).map Int.toNat = _
    rw [omitEmpty]
    split_ifs
    · rfl
    · show some (number (toString (s.localSize.toNat : ℤ))).toNat = _
      rw [h _ (by simpa using hsize)]
      rfl
  rw [readState, hstatus, hsummary, hlocal]
  rfl

lemma nodup_fields (pkg : SnapPkg) : (pkg.fields.map Prod.fst).Nodup := by
  show ["id", "name", "developer", "version", "description", "icon", "state", "price",
    "installed_size", "download_size", "type", "private", "channel", "install_date"].Nodup
  decide

/-- **A payload arrives** with the attributes that it is encoded with. -/
lemma readAttributes_fields (h : ExactNumbers number) {pkg : SnapPkg} (hsizes : SafeSizes pkg) :
    readAttributes number (Members.present pkg.fields) = pkg.encode := by
  have hmember := fun k => member_present (nodup_fields pkg) k
  have hstate : ((member "state" (Members.present pkg.fields)).bind asObject).bind (readState number)
      = pkg.encode.state := by
    rw [hmember]
    exact readState_fields h hsizes.localSize
  have hinstalled : numberMember number "installed_size" (Members.present pkg.fields)
      = pkg.encode.installedSize := by
    rw [numberMember, hmember]
    exact h.bind_asNumber hsizes.installedSize
  have hdownload : numberMember number "download_size" (Members.present pkg.fields)
      = pkg.encode.downloadSize := by
    rw [numberMember, hmember]
    exact h.bind_asNumber hsizes.downloadSize
  have hprice : stringMember "price" (Members.present pkg.fields) = pkg.encode.price := by
    rw [stringMember, hmember]
    exact bind_asString _
  have htype : stringMember "type" (Members.present pkg.fields) = pkg.encode.type := by
    rw [stringMember, hmember]
    exact bind_asString _
  rw [readAttributes, hstate, hinstalled, hdownload, hprice, htype]
  simp only [stringMember, hmember]
  rfl

end

/-! ## What is written is JSON -/

/-- The numbers of the members that are present. -/
lemma allMembers_present {p : String → Bool} (fields : List (String × Option (JSON String))) :
    JSON.allMembers p (Members.present fields) = fields.all fun m => m.2.all (JSON.all p) := by
  induction fields with
  | nil => rfl
  | cons m fields ih =>
      obtain ⟨k, - | v⟩ := m
      · exact ih
      · show (v.all p && JSON.allMembers p (Members.present fields)) = _
        rw [ih]
        rfl

@[simp] lemma all_map_string {p : String → Bool} (o : Option String) :
    (o.map JSON.string).all (JSON.all p) = true := by
  cases o <;> rfl

@[simp] lemma all_map_number (o : Option ℤ) :
    (o.map fun z => JSON.number (toString z)).all (JSON.all JSON.isNumber) = true := by
  cases o with
  | none => rfl
  | some z => exact JSON.isNumber_toString z

lemma all_state (s : PackageState) :
    (JSON.object (Members.present s.fields)).all JSON.isNumber = true := by
  rw [JSON.all, allMembers_present]
  have hlocal : ((omitEmpty 0 s.localSize.toNat).map fun n : ℕ => JSON.number (toString (n : ℤ))).all
      (JSON.all JSON.isNumber) = true := by
    have hcast := all_map_number ((omitEmpty 0 s.localSize.toNat).map fun n : ℕ => (n : ℤ))
    rwa [Option.map_map] at hcast
  simp only [PackageState.fields, List.all_cons, List.all_nil, Option.all_some, hlocal, JSON.all,
    Bool.and_self]

lemma all_json (pkg : SnapPkg) : pkg.json.all JSON.isNumber = true := by
  rw [SnapPkg.json, JSON.all, allMembers_present]
  simp only [SnapPkg.fields, List.all_cons, List.all_nil, Option.all_some, all_state, all_map_string,
    all_map_number, Bool.true_and, Bool.and_true]
  rfl

/-- A value that has been encoded arrives. -/
lemma parse_wire {v : JSON String} (h : v.all JSON.isNumber = true) :
    JSON.parse (UTF8.decode (UTF8.encode v.encode)) = some v := by
  rw [UTF8.decode_encode, JSON.parse_encode h]

lemma parse_snaps (pkgs : List SnapPkg) :
    JSON.parse (UTF8.decode (ResponseBody.snaps pkgs).wire)
      = some (.array (pkgs.map SnapPkg.json)) := by
  have hall : (JSON.array (pkgs.map SnapPkg.json)).all JSON.isNumber = true := by
    rw [JSON.all]
    induction pkgs with
    | nil => rfl
    | cons pkg pkgs ih => rw [List.map_cons, JSON.allValues, all_json, ih]; rfl
  exact parse_wire hall

lemma parse_operation (message package : String) :
    JSON.parse (UTF8.decode (ResponseBody.operation message package).wire)
      = some (.object [("package", .string package), ("message", .string message)]) :=
  parse_wire rfl

/-- The message of a response, from its text. -/
lemma readMessage_wire (body : ResponseBody) : readMessage body.wire = responseMessage body := by
  cases body with
  | empty => rfl
  | text s =>
      have hdecode : UTF8.decode (ResponseBody.text s).wire = s.toList := UTF8.decode_encode _
      rw [readMessage, responseMessage, hdecode]
      rcases JSON.parse s.toList with - | v
      · rw [String.ofList_toList]
      · cases v with
        | object ms =>
            simp only [stringMember, member]
            rcases Members.find "message" (Members.ofPairs ms) with - | v
            · rfl
            · cases v <;> rfl
        | _ => rfl
  | snap pkg =>
      have hparse : JSON.parse (UTF8.decode (ResponseBody.snap pkg).wire) = some pkg.json :=
        parse_wire (all_json pkg)
      rw [readMessage, hparse]
      show stringMember "message" (Members.present pkg.fields) = none
      rw [stringMember, member_present (nodup_fields pkg)]
      rfl
  | snaps pkgs =>
      rw [readMessage, parse_snaps]
      rfl
  | operation message package =>
      rw [readMessage, parse_operation]
      rfl

/-! ## An answer arrives -/

/-- The code goes with the body: a payload, an operation that has been accepted, or an error. -/
def Fits (resp : Response) : Prop :=
  (∃ pkg, resp = ⟨200, .snap pkg⟩) ∨
    (∃ message package, resp = ⟨202, .operation message package⟩) ∨ 400 ≤ resp.code

lemma fits_error {code : ℕ} (h : 400 ≤ code) (body : ResponseBody) : Fits ⟨code, body⟩ := .inr (.inr h)

lemma fits_operation (name : String) (err : Option Error) :
    Fits (snapOperationResponse name err) := by
  cases err with
  | none => exact .inr (.inl ⟨_, _, rfl⟩)
  | some err => exact fits_error (by decide) _

lemma fits_operate (op : PackageOp) (name : String) (env : Surroundings) (sv : Server) :
    ∀ resp ∈ (operate op name env sv).response, Fits resp := by
  intro resp h
  simp only [operate] at h
  split at h <;> cases h
  · exact fits_operation name none
  · exact fits_operation name (some _)

/-- What the server answers to anything but a listing. -/
lemma fits_handle (env : Surroundings) (sv : Server) {req : Snapweb.Request}
    (hreq : ∀ form, req ≠ .getAll form) : ∀ resp ∈ (handle env sv req).response, Fits resp := by
  cases req with
  | getAll form => exact absurd rfl (hreq form)
  | get name =>
      intro resp h
      simp only [handle, get] at h
      split at h <;> cases h
      · exact .inl ⟨_, rfl⟩
      · exact fits_error (by decide) _
  | add name => exact fits_operate _ name env sv
  | remove name => exact fits_operate _ name env sv
  | update name body =>
      intro resp h
      by_cases hempty : name = ""
      · rw [handle, hempty, update_unnamed] at h
        cases h
        exact fits_error (by decide) _
      · rcases hop : body.operation with - | op
        · rw [handle, update_of_no_operation hempty hop] at h
          cases body <;> cases h
          · exact fits_error (by decide) _
          · exact fits_error (by decide) _
          · exact fits_error (by decide) _
          · exact fits_operation name none
        · rw [handle, update_of_operation hempty hop] at h
          cases h
          split_ifs
          · exact fits_operation name none
          · exact fits_error (by decide) _

/-- An error is what it has been. -/
lemma answerEvent_of_error {resp : Response} (hcode : 400 ≤ resp.code) (i : ℕ) :
    answerEvent i (some resp) = .fail i (resp.code = 404) (responseMessage resp.body) := by
  obtain ⟨code, body⟩ := resp
  have hlow : 400 ≤ code := hcode
  have h200 : code ≠ 200 := by omega
  have h202 : code ≠ 202 := by omega
  rw [answerEvent]
  · exact fun pkg heq => absurd heq h200
  · exact fun message package heq => absurd heq h202

/-- An answer to a request: what the browser makes of its code and its bytes is what the answer is for
the model. -/
lemma handleAnswer_wire {number : String → ℤ} (hnumber : ExactNumbers number) (lib : Libraries)
    {id : String} {s : PolledSnap} {i : ℕ} {r : Request} (hr : s.requests[i]? = some r)
    {resp : Response} (hmatches : Page.Matches id r (.answered (some resp))) (hfits : Fits resp)
    (hsizes : ∀ pkg, resp.body = .snap pkg → SafeSizes pkg) :
    s.handleAnswer number lib i resp.code resp.body.wire = s.next lib (answerEvent i (some resp)) := by
  obtain ⟨hfetch, hother⟩ := hmatches resp rfl
  rcases hfits with ⟨pkg, rfl⟩ | ⟨message, package, rfl⟩ | hcode
  · have hparse : JSON.parse (UTF8.decode (ResponseBody.snap pkg).wire)
        = some (.object (Members.present pkg.fields)) := parse_wire (all_json pkg)
    have hsuccess : 200 ≤ 200 ∧ 200 < 300 := by decide
    rw [PolledSnap.handleAnswer, if_pos hsuccess, hparse]
    cases r with
    | fetch =>
        simp only [hr, readAttributes_fields hnumber (hsizes pkg rfl), answerEvent, PolledSnap.next]
    | save before overtaken => exact absurd rfl (hother (by simp) pkg)
    | destroy => exact absurd rfl (hother (by simp) pkg)
  · have hsuccess : 200 ≤ 202 ∧ 202 < 300 := by decide
    rw [PolledSnap.handleAnswer, if_pos hsuccess, parse_operation]
    cases r with
    | fetch => exact absurd rfl (hfetch rfl message package)
    | save before overtaken =>
        simp only [hr, answerEvent, PolledSnap.next]
        rfl
    | destroy => simp only [hr, answerEvent, PolledSnap.next]
  · have hsuccess : ¬ (200 ≤ resp.code ∧ resp.code < 300) := by omega
    rw [PolledSnap.handleAnswer, if_neg hsuccess, answerEvent_of_error hcode, readMessage_wire]

/-! ## Runs -/

/-- What the server has answered fits. -/
def Fitting (stages : List Stage) : Prop :=
  ∀ resp, Stage.answered (some resp) ∈ stages → Fits resp

lemma Fitting.asked {stages : List Stage} (h : Fitting stages) {more : List Stage}
    (hmore : ∀ stage ∈ more, ∃ req, stage = .asked req) : Fitting (stages ++ more) := by
  intro resp hmem
  rcases List.mem_append.mp hmem with hmem | hmem
  · exact h resp hmem
  · obtain ⟨req, heq⟩ := hmore _ hmem
    cases heq

lemma Fitting.erase {stages : List Stage} (h : Fitting stages) (i : ℕ) :
    Fitting (stages.eraseIdx i) :=
  fun resp hmem => h resp (List.mem_of_mem_eraseIdx hmem)

/-- One event. -/
lemma Fitting.next {lib : Libraries} {id : String} {s s' : Page} (h : Fitting s.stages)
    (hmatched : s.Matched id) {e : PageEvent} (hnext : s.next lib id e = some s') :
    Fitting s'.stages := by
  cases e with
  | click c =>
      cases hnext
      refine h.asked fun stage hstage => ?_
      obtain ⟨req, -, rfl⟩ := Option.map_eq_some_iff.mp (Option.mem_toList.mp hstage)
      exact ⟨req, rfl⟩
  | fire =>
      obtain ⟨polled, -, rfl⟩ := Option.map_eq_some_iff.mp hnext
      refine h.asked fun stage hstage => ⟨.get id, List.mem_singleton.mp hstage⟩
  | serve i =>
      simp only [Page.next] at hnext
      split at hnext
      · next req hstage =>
          cases hnext
          intro resp hmem
          rcases List.mem_or_eq_of_mem_set hmem with hmem | heq
          · exact h resp hmem
          · obtain ⟨r, -, hmatches⟩ := Page.exists_of_forall₂ hmatched hstage
            refine fits_handle s.api.env s.api.server ?_ resp (Stage.answered.inj heq).symm
            rintro form rfl
            rcases hmatches with ⟨-, hget⟩ | ⟨-, hoperation⟩
            · cases hget
            · cases hoperation
      · cases hnext
  | deliver i =>
      simp only [Page.next] at hnext
      split at hnext
      · obtain ⟨polled, -, rfl⟩ := Option.map_eq_some_iff.mp hnext
        exact h.erase i
      · cases hnext
  | lose i =>
      simp only [Page.next] at hnext
      split at hnext
      · obtain ⟨polled, -, rfl⟩ := Option.map_eq_some_iff.mp hnext
        exact h.erase i
      · obtain ⟨polled, -, rfl⟩ := Option.map_eq_some_iff.mp hnext
        exact h.erase i
      · cases hnext
  | stray i =>
      simp only [Page.next] at hnext
      split at hnext
      · cases hnext
        exact h
      · cases hnext
  | vanish i =>
      simp only [Page.next] at hnext
      split_ifs at hnext
      cases hnext
      exact h
  | other api =>
      cases hnext
      exact h

/-- The step is what the browser makes of bytes, where it is given an answer whose sizes are at most
2 ^ 53. -/
def IsRead (number : String → ℤ) (lib : Libraries) (s : Page) (e : PageEvent) (s' : Page) : Prop :=
  ∀ i, e = .deliver i → ∀ resp, s.stages[i]? = some (.answered (some resp)) →
    (∀ pkg, resp.body = .snap pkg → SafeSizes pkg) →
    s.snap.handleAnswer number lib i resp.code resp.body.wire = some s'.snap

/-- **What the browser is told.**  Whatever a page has been through, and whatever the server meets: at
every answer that gets to it, what the browser makes of the code and the bytes is the model that
`Page` goes on with. -/
theorem run_isRead {number : String → ℤ} (hnumber : ExactNumbers number) (lib : Libraries)
    (id : String) (origin : Origin) (api : API) (es : List PageEvent) :
    (Page.machine lib id).Along (IsRead number lib) (origin.page lib id api) es := by
  refine Machine.Along.of_invariant (I := fun s => s.Matched id ∧ Fitting s.stages)
    (C := fun _ _ _ => True) ?_ ?_ ⟨Origin.matched_page lib id origin api, ?_⟩
    (Machine.along_of_forall _ fun _ _ => trivial)
  · rintro s e s' ⟨hmatched, hfitting⟩ hnext -
    exact ⟨hmatched.next hnext, hfitting.next hmatched hnext⟩
  · rintro s e s' ⟨hmatched, hfitting⟩ hnext - i rfl resp hstage hsizes
    obtain ⟨r, hr, hmatches⟩ := Page.exists_of_forall₂ hmatched hstage
    rw [handleAnswer_wire hnumber lib hr hmatches
      (hfitting resp (List.mem_of_getElem? hstage)) hsizes]
    simp only [Page.machine, Page.next, hstage] at hnext
    obtain ⟨polled, hpolled, rfl⟩ := Option.map_eq_some_iff.mp hnext
    exact hpolled
  · intro resp hmem
    obtain ⟨r, -, heq⟩ := List.mem_map.mp hmem
    cases heq

/-- Whole numbers, of any size. -/
def wholeNumber (text : String) : ℤ :=
  if text.toList.head? = some '-' then -(Nat.ofDigitChars 10 text.toList.tail 0 : ℤ)
  else Nat.ofDigitChars 10 text.toList 0

lemma exact_wholeNumber : ExactNumbers wholeNumber := by
  intro z _
  have hdigits : ∀ n : ℕ, (Nat.toDigits 10 n).head? ≠ some '-' := by
    intro n
    rcases Nat.eq_zero_or_pos n with rfl | hpos
    · decide
    · obtain ⟨c, cs, hcs, hminus, -⟩ := JSON.Digits.run_toDigits hpos
      simpa [hcs] using hminus
  rw [wholeNumber, Int.toString_eq_repr, Int.repr_eq_if]
  split_ifs with hz hhead hhead
  · rw [Nat.toList_repr] at hhead
    exact absurd hhead (hdigits _)
  · rw [Nat.toList_repr, Nat.ofDigitChars_toDigits (by decide) (by decide)]
    omega
  · simp only [String.toList_append, Nat.toList_repr]
    show -((Nat.ofDigitChars 10 (Nat.toDigits 10 (-z).toNat) 0 : ℕ) : ℤ) = z
    rw [Nat.ofDigitChars_toDigits (by decide) (by decide)]
    omega
  · rw [String.toList_append] at hhead
    exact absurd rfl hhead

/-- The first payload of a page gets there. -/
theorem hello_isRead :
    let page := (Origin.fresh "hello-world").page plainLibraries "hello-world" packagesState.inside
    ((Page.machine plainLibraries "hello-world").exec page [.serve 0, .deliver 0]).isSome = true ∧
      (Page.machine plainLibraries "hello-world").Along (IsRead wholeNumber plainLibraries) page
        [.serve 0, .deliver 0] :=
  ⟨rfl, run_isRead exact_wholeNumber plainLibraries "hello-world" (.fresh "hello-world")
    packagesState.inside [.serve 0, .deliver 0]⟩

end Client

end Snapweb
