import Mathlib.Data.List.Permutation
import Snapweb.Client.SettingsTime
import Snapweb.Packages.Update
import Snapweb.TimeInfo.Datetime

/-!
# The time information of the machine

`handleTimeInfo`: a GET request gets what `timedated` and the configuration of `timesyncd` have, and
a PATCH request changes it.  `timedated` is a parameter, with the calls that change it and the
properties that are read.

* `served_other` — a request that is no PATCH changes nothing.
* `served_patch` — what a PATCH with the body of a client does.
-/

namespace Snapweb

open Ini

variable {β ν τ : Type*}

/-- `timedated`, over its states: what a call returns and does, and what its properties are. -/
structure Timedated (τ : Type*) where
  call : τ → TimedateCall → Option Error × τ
  property : τ → String → Except Error DBusValue

/-- What the handler runs on. -/
structure TimeHost (β ν τ : Type*) where
  lib : Library β
  /-- How a save of the configuration ends. -/
  save : SaveResult
  /-- The error of `dbus.SystemBus`. -/
  systemBus : Option Error
  timedated : Timedated τ
  /-- The conversion of a number of seconds to microseconds. -/
  usec : ν → Int64
  /-- The number that a text stands for, where a `float64` can hold it. -/
  inRange : String → Bool
  float : String → ν
  /-- `time.LoadLocation`: the offset from UTC, at a time. -/
  loadLocation : String → Except Error (ℤ → ℤ)

/-- The configuration of `timesyncd`, and the state of `timedated`. -/
structure TimeState (β τ : Type*) where
  conf : Option (List β)
  timedated : τ

/-- The order in which Go goes through a map. -/
structure MapOrder (α : Type*) where
  of : List α → List α
  perm : ∀ l, (of l).Perm l

/-- A request for `/time-info`; the body of one may fail to be read. -/
structure TimeRequest where
  method : String
  contentType : String
  body : Option (List UInt8)

/-- What the handler answers. -/
inductive TimeReply
  | status (code : ℕ)
  | info (info : TimeInfoResponse)

namespace TimeState

/-- What a patch finds: `timedated` is called once at most, in the state it is in. -/
def env (host : TimeHost β ν τ) (s : TimeState β τ) : TimeEnv β ν where
  lib := host.lib
  save := host.save
  systemBus := host.systemBus
  reply := fun c => (host.timedated.call s.timedated c).1
  usec := host.usec

/-- `timedated`, after an update. -/
def updated (host : TimeHost β ν τ) (t : τ) : TimeUpdate → τ
  | .call c => (host.timedated.call t c).2
  | .ntpServer _ => t

/-- `setTimeInfo`, over the entries of a patch in the order in which they come up. -/
def setTimeInfo (host : TimeHost β ν τ) (s : TimeState β τ) (patch : List (String × JSON ν)) :
    Outcome × TimeState β τ :=
  let (outcome, w) := TimeWorld.setTimeInfo (s.env host) ⟨s.conf, []⟩ patch
  (outcome, { conf := w.conf, timedated := w.updates.foldl (updated host) s.timedated })

/-- `getTimeInfo`. -/
def getTimeInfo (host : TimeHost β ν τ) (now : ℤ) (s : TimeState β τ) : Returned TimeInfoResponse :=
  match host.systemBus with
  | some err => .error err
  | none =>
      match host.timedated.property s.timedated "org.freedesktop.timedate1.Timezone" with
      | .error err => .error err
      | .ok timezone =>
          match host.timedated.property s.timedated "org.freedesktop.timedate1.NTP" with
          | .error err => .error err
          | .ok ntp =>
              match timezone with
              | .string timezone =>
                  match host.loadLocation timezone with
                  | .error err => .error err
                  | .ok zone =>
                      match ntp with
                      | .bool ntp => .ok
                          { dateTime := now
                            timezone
                            offset := zone now
                            ntp
                            ntpServer := readNTPServer host.lib s.conf }
                      | _ => .panic
              | _ => .panic

end TimeState

/-- `json.Unmarshal` into a `map[string]interface{}`. -/
def TimeHost.unmarshal (host : TimeHost β ν τ) (data : List UInt8) : Option (List (String × JSON ν)) :=
  match JSON.parse (UTF8.decode data) with
  | some .null => some []
  | some (.object ms) =>
      if JSON.allMembers host.inRange ms then some (Members.ofPairs (JSON.loadMembers host.float ms))
      else none
  | _ => none

/-- `handleTimeInfo`. -/
def handleTimeInfo (host : TimeHost β ν τ) (order : MapOrder (String × JSON ν)) (now : ℤ)
    (s : TimeState β τ) (r : TimeRequest) : Option TimeReply × TimeState β τ :=
  if r.method = "GET" then
    match s.getTimeInfo host now with
    | .ok info => (some (.info info), s)
    | .error _ => (some (.status 500), s)
    | .panic => (none, s)
  else if r.method = "PATCH" then
    if r.contentType ≠ "application/json" then (some (.status 415), s)
    else
      match r.body with
      | none => (some (.status 500), s)
      | some data =>
          match host.unmarshal data with
          | none => (some (.status 400), s)
          | some patch =>
              let (outcome, s') := s.setTimeInfo host (order.of patch)
              (if outcome = .panic then none else some (.status 200), s')
  else (some (.status 405), s)

variable {host : TimeHost β ν τ} {order : MapOrder (String × JSON ν)} {now : ℤ} {s : TimeState β τ}

/-- A request that is no PATCH changes nothing. -/
lemma served_other {r : TimeRequest} (h : r.method ≠ "PATCH") :
    (handleTimeInfo host order now s r).2 = s := by
  rw [handleTimeInfo]
  split_ifs
  · split <;> rfl
  · rfl

/-! ## What a patch does -/

namespace TimeState

/-- `timedated` is called, where the bus is there. -/
def called (host : TimeHost β ν τ) (s : TimeState β τ) (c : TimedateCall) : TimeState β τ :=
  match host.systemBus with
  | some _ => s
  | none => { s with timedated := (host.timedated.call s.timedated c).2 }

/-- A server has been written. -/
def wrote (host : TimeHost β ν τ) (s : TimeState β τ) (name : String) : TimeState β τ :=
  { s with conf := (writeNTPServer host.lib host.save s.conf name).2 }

/-- What has been updated before makes no difference. -/
lemma setTimeInfo_append (env : TimeEnv β ν) (conf : Option (List β)) (us : List TimeUpdate)
    (patch : List (String × JSON ν)) :
    (TimeWorld.setTimeInfo env ⟨conf, us⟩ patch).2 =
      { conf := (TimeWorld.setTimeInfo env ⟨conf, []⟩ patch).2.conf
        updates := us ++ (TimeWorld.setTimeInfo env ⟨conf, []⟩ patch).2.updates } := by
  induction patch generalizing conf us with
  | nil => simp [TimeWorld.setTimeInfo]
  | cons e patch ih =>
      rw [TimeWorld.setTimeInfo_cons, TimeWorld.setTimeInfo_cons]
      rcases patchEntry env.usec e with _ | (c | name) | err | _
      · exact ih conf us
      · simp only [TimeWorld.updateTimeDate]
        cases env.systemBus <;> simp
      · dsimp only
        cases (writeNTPServer env.lib env.save conf name).1 with
        | some err => simp [TimeWorld.writtenServer]
        | none =>
            dsimp only [TimeWorld.writtenServer]
            rw [ih _ (us ++ _), ih _ ([] ++ _)]
            simp
      · simp
      · simp

/-- What one entry does, and what it leaves for the others. -/
lemma setTimeInfo_cons (e : String × JSON ν) (patch : List (String × JSON ν)) :
    (s.setTimeInfo host (e :: patch)).2 =
      match patchEntry host.usec e with
      | .unrecognised => (s.setTimeInfo host patch).2
      | .update (.call c) => s.called host c
      | .update (.ntpServer name) =>
          match (writeNTPServer host.lib host.save s.conf name).1 with
          | some _ => s.wrote host name
          | none => ((s.wrote host name).setTimeInfo host patch).2
      | .refused _ | .panics => s := by
  simp only [setTimeInfo, TimeWorld.setTimeInfo_cons, env]
  rcases patchEntry host.usec e with _ | (c | name) | err | _
  · rfl
  · simp only [TimeWorld.updateTimeDate, called]
    cases host.systemBus <;> rfl
  · dsimp only
    cases (writeNTPServer host.lib host.save s.conf name).1 with
    | some err => rfl
    | none =>
        dsimp only [TimeWorld.writtenServer]
        rw [setTimeInfo_append]
        rfl
  · rfl
  · rfl

/-- A flag: the loop returns. -/
lemma setTimeInfo_ntp (b : Bool) (patch : List (String × JSON ν)) :
    (s.setTimeInfo host (("ntp", .bool b) :: patch)).2 = s.called host ⟨"SetNTP", .bool b⟩ := by
  rw [setTimeInfo_cons]
  rfl

/-- The name of a server: the loop goes on, unless there is an error. -/
lemma setTimeInfo_ntpServer (name : String) (patch : List (String × JSON ν)) :
    (s.setTimeInfo host (("ntpServer", .string name) :: patch)).2 =
      match (writeNTPServer host.lib host.save s.conf name).1 with
      | some _ => s.wrote host name
      | none => ((s.wrote host name).setTimeInfo host patch).2 := by
  have hentry : patchEntry host.usec (("ntpServer", .string name) : String × JSON ν)
      = .update (.ntpServer name) := by
    simp [patchEntry]
  rw [setTimeInfo_cons, hentry]

end TimeState

/-! ## The body of a client -/

/-- What `JSON.stringify` makes of members with whole numbers. -/
def membersBody (attrs : List (String × JSON ℤ)) : List UInt8 :=
  bodyOf (.object (JSON.loadMembers toString attrs))

/-- Members without arrays and objects: numbers, texts and the like. -/
def isFlat : JSON ν → Bool
  | .array _ | .object _ => false
  | _ => true

/-- The entry that the server makes of a member. -/
def TimeHost.entry (host : TimeHost β ν τ) (e : String × JSON ℤ) : String × JSON ν :=
  (e.1, (e.2.load toString).load host.float)

lemma allMembers_loadMembers {attrs : List (String × JSON ℤ)}
    (hflat : ∀ e ∈ attrs, isFlat e.2 = true) :
    JSON.allMembers JSON.isNumber (JSON.loadMembers toString attrs) = true := by
  induction attrs with
  | nil => rfl
  | cons e attrs ih =>
      obtain ⟨k, v⟩ := e
      have hv := hflat _ List.mem_cons_self
      have hrest := ih fun e he => hflat e (List.mem_cons_of_mem _ he)
      rw [JSON.loadMembers, JSON.allMembers, Bool.and_eq_true]
      refine ⟨?_, hrest⟩
      cases v with
      | number z => exact JSON.isNumber_toString z
      | array vs => cases hv
      | object ms => cases hv
      | null | bool b | string text => rfl

lemma keys_loadMembers (f : ν → τ) (ms : List (String × JSON ν)) :
    (JSON.loadMembers f ms).map Prod.fst = ms.map Prod.fst := by
  induction ms with
  | nil => rfl
  | cons e ms ih => exact congrArg (e.1 :: ·) ih

lemma loadMembers_loadMembers (host : TimeHost β ν τ) (attrs : List (String × JSON ℤ)) :
    JSON.loadMembers host.float (JSON.loadMembers toString attrs) = attrs.map host.entry := by
  induction attrs with
  | nil => rfl
  | cons e attrs ih => exact congrArg (host.entry e :: ·) ih

/-- What is unmarshalled of the body: the members, where a `float64` can hold their numbers. -/
lemma unmarshal_membersBody {attrs : List (String × JSON ℤ)}
    (hflat : ∀ e ∈ attrs, isFlat e.2 = true) (hkeys : (attrs.map Prod.fst).Nodup) :
    host.unmarshal (membersBody attrs) =
      if JSON.allMembers host.inRange (JSON.loadMembers toString attrs) then
        some (attrs.map host.entry)
      else none := by
  have hparse : JSON.parse (UTF8.decode (membersBody attrs))
      = some (.object (JSON.loadMembers toString attrs)) :=
    parse_bodyOf (allMembers_loadMembers hflat)
  have hnodup : ((JSON.loadMembers host.float (JSON.loadMembers toString attrs)).map
      Prod.fst).Nodup := by
    rw [keys_loadMembers, keys_loadMembers]
    exact hkeys
  rw [TimeHost.unmarshal, hparse]
  dsimp only
  rw [Members.ofPairs_of_nodup hnodup, loadMembers_loadMembers]

/-- What a PATCH with the body of a client does. -/
lemma served_patch {attrs : List (String × JSON ℤ)} (hflat : ∀ e ∈ attrs, isFlat e.2 = true)
    (hkeys : (attrs.map Prod.fst).Nodup) :
    (handleTimeInfo host order now s
        { method := "PATCH", contentType := "application/json", body := some (membersBody attrs) }).2 =
      if JSON.allMembers host.inRange (JSON.loadMembers toString attrs) then
        (s.setTimeInfo host (order.of (attrs.map host.entry))).2
      else s := by
  have hmethod : ¬ "PATCH" = "GET" := by decide
  simp only [handleTimeInfo, hmethod, if_false, if_true, ne_eq, not_true,
    unmarshal_membersBody hflat hkeys]
  split_ifs <;> rfl

/-- Of one entry there is one order. -/
lemma MapOrder.of_singleton {α : Type*} (order : MapOrder α) (a : α) : order.of [a] = [a] :=
  List.perm_singleton.mp (order.perm [a])

/-- Of two entries there are two. -/
lemma MapOrder.of_pair {α : Type*} (order : MapOrder α) (a b : α) :
    order.of [a, b] = [a, b] ∨ order.of [a, b] = [b, a] :=
  List.perm_pair.mp (order.perm [a, b])

end Snapweb
