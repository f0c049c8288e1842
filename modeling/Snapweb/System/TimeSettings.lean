import Snapweb.Client.TimeZones
import Snapweb.Core.Machine
import Snapweb.TimeInfo.Handler

/-!
# The settings of the time, and the machine's

`views/settings-time.js` over `models/time-info.js`: the page fetches what the machine has, and each
choice of the user is set in the model and sent to the server, which may come to nothing: before the
model has been fetched it is sent as a POST, the machine may refuse it, the name of an NTP server goes
before those that there are, and the entries of a patch come up in any order.

A request is served before the next choice is made.

* `TimePage.next` — one event.
* `settings_inStep_iff` — the page has what the machine has throughout, exactly if no choice comes to
  something else; a time zone that it has no option for it shows as another one.
-/

namespace Snapweb

open Ini

/-! ## The page -/

/-- The radio buttons. -/
inductive TimeSource
  | automatic
  | custom
  | manual
  deriving DecidableEq, Repr

/-- The id of a button. -/
def TimeSource.id : TimeSource → String
  | automatic => "automatic-time-source"
  | custom => "custom-time-source"
  | manual => "manual-time-source"

/-- The button that is checked for what the server has sent. -/
def sourceOf (ntp : Bool) (ntpServer : String) : TimeSource :=
  if ntp then if ntpServer = "" then .automatic else .custom else .manual

/-- The model of `models/time-info.js`. -/
structure TimeModel where
  info : TimeInfo
  timeSource : Option TimeSource
  reallyIsNew : Bool

namespace TimeModel

/-- The model at first. -/
def new : TimeModel where
  info := { dateTime := none, timezone := none, offset := none, ntp := none, ntpServer := none }
  timeSource := none
  reallyIsNew := false

/-- The button that is checked. -/
def source (m : TimeModel) : TimeSource :=
  m.timeSource.getD (sourceOf (m.info.ntp.getD false) (m.info.ntpServer.getD ""))

/-- The zone that is selected: the one of that name, or else one for the offset. -/
def zone (mathSign : Bool) (m : TimeModel) : TimeZone :=
  match timeZones.filter fun tz => some tz.name = m.info.timezone with
  | [] => pickTimeZoneFromOffset mathSign (m.info.offset.getD 0)
  | tz :: _ => tz

/-- The attributes. -/
def toJSON (m : TimeModel) : List (String × JSON ℤ) :=
  (m.info.dateTime.map fun z => ("dateTime", JSON.number z)).toList ++
    (m.info.timezone.map fun text => ("timezone", JSON.string text)).toList ++
    (m.info.offset.map fun z => ("offset", JSON.number z)).toList ++
    (m.info.ntp.map fun b => ("ntp", JSON.bool b)).toList ++
    (m.info.ntpServer.map fun text => ("ntpServer", JSON.string text)).toList ++
    (m.timeSource.map fun src => ("timeSource", JSON.string src.id)).toList

/-- The request of a `save` with `patch`: a model that has not been fetched is taken for a new one,
and sent as a whole. -/
def request (m : TimeModel) (attrs : List (String × JSON ℤ)) : TimeRequest where
  method := if m.reallyIsNew then "PATCH" else "POST"
  contentType := "application/json"
  body := some (membersBody (if m.reallyIsNew then attrs else m.toJSON))

end TimeModel

namespace TimeInfo

/-- `set`, of one attribute. -/
def setMember (info : TimeInfo) : String × JSON ℤ → TimeInfo
  | ("ntp", .bool b) => { info with ntp := some b }
  | ("ntpServer", .string text) => { info with ntpServer := some text }
  | ("timezone", .string text) => { info with timezone := some text }
  | ("dateTime", .number z) => { info with dateTime := some z }
  | _ => info

/-- `set`, of an answer to `fetch`. -/
def receive (info answer : TimeInfo) : TimeInfo where
  dateTime := answer.dateTime <|> info.dateTime
  timezone := answer.timezone <|> info.timezone
  offset := answer.offset <|> info.offset
  ntp := answer.ntp <|> info.ntp
  ntpServer := answer.ntpServer <|> info.ntpServer

end TimeInfo

/-- What the user does: to check a button, to change the name of the server (by any key), to select a
time zone, or to pick a date or a time of day. -/
inductive TimeEdit
  | source (src : TimeSource)
  | ntpServer (name : String)
  | timezone (name : String)
  | date (value : String)
  | time (value : String)

namespace TimeEdit

/-- The field is disabled. -/
def disabled (m : TimeModel) : TimeEdit → Bool
  | source _ => false
  | ntpServer _ => m.source ≠ .custom
  | timezone _ => false
  | date _ => m.source ≠ .manual
  | time _ => m.source ≠ .manual

/-- What is saved, if anything is. -/
def saved {M : Type*} (lib : MomentLib M) (info : TimeInfo) : TimeEdit → Option (List (String × JSON ℤ))
  | source .automatic => some [("ntp", .bool true), ("ntpServer", .string "")]
  | source .custom => some [("ntp", .bool true)]
  | source .manual => some [("ntp", .bool false)]
  | ntpServer name =>
      if info.ntpServer = some name then none else some [("ntpServer", .string name)]
  | timezone name => if info.timezone = some name then none else some [("timezone", .string name)]
  | date value => some (dateChanged lib info value)
  | time value => some (timeChanged lib info value)

/-- The `timeSource` that is set. -/
def timeSource : TimeEdit → Option TimeSource
  | source src => some src
  | _ => none

end TimeEdit

/-! ## The page and the machine -/

/-- A page, whether its fetch is still on the way, and the machine. -/
structure TimePage (β τ : Type*) where
  model : TimeModel
  fetching : Bool
  server : TimeState β τ

/-- What happens: the user edits, and the server serves the request, if there is one; the fetch is
answered; or the page is opened anew. -/
inductive TimeEvent (ν : Type*)
  | edit (e : TimeEdit) (order : MapOrder (String × JSON ν)) (now : ℤ)
  | fetched (order : MapOrder (String × JSON ν)) (now : ℤ)
  | opened

namespace TimePage

variable {β ν τ M : Type*}

/-- The page is opened. -/
def opened (server : TimeState β τ) : TimePage β τ := { model := .new, fetching := true, server }

/-- The model with what is saved. -/
def saving (s : TimePage β τ) (attrs : List (String × JSON ℤ)) : TimeModel :=
  { s.model with info := attrs.foldl TimeInfo.setMember s.model.info }

/-- An edit.  What is answered changes nothing of the model: it has no body, or is an error. -/
def edited (lib : MomentLib M) (host : TimeHost β ν τ) (order : MapOrder (String × JSON ν)) (now : ℤ)
    (s : TimePage β τ) (e : TimeEdit) : TimePage β τ :=
  match e.saved lib s.model.info with
  | none => s
  | some attrs =>
      { s with
        model := { s.saving attrs with timeSource := e.timeSource <|> s.model.timeSource }
        server := (handleTimeInfo host order now s.server ((s.saving attrs).request attrs)).2 }

/-- One event. -/
def next (lib : MomentLib M) (host : TimeHost β ν τ) (s : TimePage β τ) :
    TimeEvent ν → Option (TimePage β τ)
  | .edit e order now => if e.disabled s.model then none else some (s.edited lib host order now e)
  | .fetched order now =>
      if s.fetching then
        let request : TimeRequest := { method := "GET", contentType := "", body := some [] }
        match handleTimeInfo host order now s.server request with
        | (some (.info info), server) =>
            some { fetching := false
                   model :=
                    { s.model with info := s.model.info.receive info.encode, reallyIsNew := true }
                   server }
        | (_, server) => some { s with fetching := false, server }
      else none
  | .opened => some (opened s.server)

/-- The events, as a machine. -/
def machine (lib : MomentLib M) (host : TimeHost β ν τ) : Machine (TimePage β τ) (TimeEvent ν) :=
  ⟨fun s e => s.next lib host e⟩

end TimePage

/-! ## What the machine has -/

/-- What is relied on of `timedated`: whether it uses NTP, and its time zone, are its properties; a call
that it accepts sets what it is for, and a call that it refuses sets nothing. -/
structure Timedated.Documented {τ : Type*} (timedated : Timedated τ) (ntp : τ → Bool)
    (timezone : τ → String) : Prop where
  property_ntp : ∀ t v, timedated.property t "org.freedesktop.timedate1.NTP" = .ok v →
    v = .bool (ntp t)
  property_timezone : ∀ t v, timedated.property t "org.freedesktop.timedate1.Timezone" = .ok v →
    v = .string (timezone t)
  refused : ∀ t c err, (timedated.call t c).1 = some err →
    ntp (timedated.call t c).2 = ntp t ∧ timezone (timedated.call t c).2 = timezone t
  setNTP : ∀ t b, (timedated.call t ⟨"SetNTP", .bool b⟩).1 = none →
    ntp (timedated.call t ⟨"SetNTP", .bool b⟩).2 = b ∧
      timezone (timedated.call t ⟨"SetNTP", .bool b⟩).2 = timezone t
  setTimezone : ∀ t name, (timedated.call t ⟨"SetTimezone", .string name⟩).1 = none →
    ntp (timedated.call t ⟨"SetTimezone", .string name⟩).2 = ntp t ∧
      timezone (timedated.call t ⟨"SetTimezone", .string name⟩).2 = name
  setTime : ∀ t n, (timedated.call t ⟨"SetTime", .int64 n⟩).1 = none →
    ntp (timedated.call t ⟨"SetTime", .int64 n⟩).2 = ntp t ∧
      timezone (timedated.call t ⟨"SetTime", .int64 n⟩).2 = timezone t

namespace TimeState

variable {β ν τ : Type*} (host : TimeHost β ν τ) (s : TimeState β τ)

/-- The NTP server that is reported. -/
def ntpServer : String := readNTPServer host.lib s.conf

/-- A call would be accepted. -/
def Accepts (c : TimedateCall) : Prop :=
  host.systemBus = none ∧ (host.timedated.call s.timedated c).1 = none

variable {host s} {ntp : τ → Bool} {timezone : τ → String}

@[simp] lemma conf_called (c : TimedateCall) : (s.called host c).conf = s.conf := by
  rw [called]
  split <;> rfl

@[simp] lemma ntpServer_called (c : TimedateCall) :
    (s.called host c).ntpServer host = s.ntpServer host := by
  rw [ntpServer, conf_called, ntpServer]

/-- A call that is refused sets nothing. -/
lemma called_of_not_accepts (hdoc : host.timedated.Documented ntp timezone) {c : TimedateCall}
    (h : ¬ s.Accepts host c) :
    ntp (s.called host c).timedated = ntp s.timedated ∧
      timezone (s.called host c).timedated = timezone s.timedated := by
  rw [called]
  cases hbus : host.systemBus with
  | some err => exact ⟨rfl, rfl⟩
  | none =>
      cases hcall : (host.timedated.call s.timedated c).1 with
      | some err => exact hdoc.refused _ _ err hcall
      | none => exact absurd ⟨hbus, hcall⟩ h

/-- NTP is switched: exactly if it is accepted, unless it is so already. -/
lemma ntp_called_iff (hdoc : host.timedated.Documented ntp timezone) (b : Bool) :
    ntp (s.called host ⟨"SetNTP", .bool b⟩).timedated = b ↔
      ntp s.timedated = b ∨ s.Accepts host ⟨"SetNTP", .bool b⟩ := by
  by_cases haccepts : s.Accepts host ⟨"SetNTP", .bool b⟩
  · refine iff_of_true ?_ (.inr haccepts)
    rw [called, haccepts.1]
    exact (hdoc.setNTP _ _ haccepts.2).1
  · rw [(called_of_not_accepts hdoc haccepts).1]
    exact ⟨.inl, fun h => h.resolve_right haccepts⟩

lemma timezone_called_ntp (hdoc : host.timedated.Documented ntp timezone) (b : Bool) :
    timezone (s.called host ⟨"SetNTP", .bool b⟩).timedated = timezone s.timedated := by
  by_cases haccepts : s.Accepts host ⟨"SetNTP", .bool b⟩
  · rw [called, haccepts.1]
    exact (hdoc.setNTP _ _ haccepts.2).2
  · exact (called_of_not_accepts hdoc haccepts).2

/-- The time zone is set: exactly if it is accepted, unless it is so already. -/
lemma timezone_called_iff (hdoc : host.timedated.Documented ntp timezone) (name : String) :
    timezone (s.called host ⟨"SetTimezone", .string name⟩).timedated = name ↔
      timezone s.timedated = name ∨ s.Accepts host ⟨"SetTimezone", .string name⟩ := by
  by_cases haccepts : s.Accepts host ⟨"SetTimezone", .string name⟩
  · refine iff_of_true ?_ (.inr haccepts)
    rw [called, haccepts.1]
    exact (hdoc.setTimezone _ _ haccepts.2).2
  · rw [(called_of_not_accepts hdoc haccepts).2]
    exact ⟨.inl, fun h => h.resolve_right haccepts⟩

lemma ntp_called_timezone (hdoc : host.timedated.Documented ntp timezone) (name : String) :
    ntp (s.called host ⟨"SetTimezone", .string name⟩).timedated = ntp s.timedated := by
  by_cases haccepts : s.Accepts host ⟨"SetTimezone", .string name⟩
  · rw [called, haccepts.1]
    exact (hdoc.setTimezone _ _ haccepts.2).1
  · exact (called_of_not_accepts hdoc haccepts).1

/-- Setting the time sets nothing else. -/
lemma called_time (hdoc : host.timedated.Documented ntp timezone) (n : Int64) :
    ntp (s.called host ⟨"SetTime", .int64 n⟩).timedated = ntp s.timedated ∧
      timezone (s.called host ⟨"SetTime", .int64 n⟩).timedated = timezone s.timedated := by
  by_cases haccepts : s.Accepts host ⟨"SetTime", .int64 n⟩
  · rw [called, haccepts.1]
    exact hdoc.setTime _ _ haccepts.2
  · exact called_of_not_accepts hdoc haccepts

/-! ### Servers -/

variable {Server : String → Prop} {Kept : File → Prop}

/-- Where there is a section for it, a server is written. -/
lemma wrote_of_hasTime (hlib : host.lib.Lawful Server Kept) (hsave : host.save = .done)
    (hkeeps : host.lib.Keeps Server Kept s.conf) (h : HasTime host.lib s.conf) {name : String}
    (hname : IsServerList Server name) :
    (writeNTPServer host.lib host.save s.conf name).1 = none ∧
      (s.wrote host name).ntpServer host
        = (host.lib.after (ntpServers host.lib s.conf) name).headD "" := by
  rw [ntpServer, readNTPServer_eq, wrote, hsave, (ntpServers_call hlib hkeeps h hname).2.2]
  refine ⟨?_, rfl⟩
  rw [writeNTPServer]
  rcases editNTPServer_spec hlib hkeeps h hname with ⟨-, hedit, -⟩ | ⟨-, timesyncd, hedit, -⟩
  · rw [hedit]
  · rw [hedit]
    rfl

/-- Without a section there are no servers. -/
lemma ntpServers_of_not_hasTime (h : ¬ HasTime host.lib s.conf) : ntpServers host.lib s.conf = [] := by
  rw [ntpServers, ntpValue]
  rcases hload : host.lib.loadFile s.conf with _ | timesyncd
  · rfl
  · rcases hsec : Members.find "Time" timesyncd with _ | sec
    · simp only [hsec]
      rfl
    · exact absurd ⟨timesyncd, sec, hload, hsec⟩ h

/-- Where there is none, nothing is written. -/
lemma wrote_of_not_hasTime (h : ¬ HasTime host.lib s.conf) (name : String) :
    (∃ err, (writeNTPServer host.lib host.save s.conf name).1 = some err) ∧
      s.wrote host name = s ∧ s.ntpServer host = "" := by
  obtain ⟨err, hedit⟩ := editNTPServer_of_not_hasTime h name
  refine ⟨⟨err, ?_⟩, ?_, ?_⟩
  · rw [writeNTPServer, hedit]
  · rw [wrote, writeNTPServer, hedit]
  · rw [ntpServer, readNTPServer_eq, ntpServers_of_not_hasTime h, List.headD_nil]

/-- The file stays one of the kind when a server is written. -/
lemma keeps_wrote (hlib : host.lib.Lawful Server Kept) (hsave : host.save = .done)
    (hkeeps : host.lib.Keeps Server Kept s.conf) {name : String}
    (hname : IsServerList Server name) : host.lib.Keeps Server Kept (s.wrote host name).conf := by
  by_cases htime : HasTime host.lib s.conf
  · rw [wrote, hsave]
    exact (ntpServers_call hlib hkeeps htime hname).2.1
  · rw [(wrote_of_not_hasTime htime name).2.1]
    exact hkeeps

/-- And by a patch, whose servers are of theirs. -/
lemma keeps_setTimeInfo (hlib : host.lib.Lawful Server Kept) (hsave : host.save = .done)
    (hkeeps : host.lib.Keeps Server Kept s.conf) {patch : List (String × JSON ν)}
    (hpatch : ∀ name, ("ntpServer", .string name) ∈ patch → IsServerList Server name) :
    host.lib.Keeps Server Kept (s.setTimeInfo host patch).2.conf := by
  induction patch generalizing s with
  | nil => exact hkeeps
  | cons e patch ih =>
      have hrest : ∀ name, ("ntpServer", JSON.string name) ∈ patch → IsServerList Server name :=
        fun name h => hpatch name (List.mem_cons_of_mem e h)
      rw [setTimeInfo_cons]
      rcases hentry : patchEntry host.usec e with _ | (c | name) | err | _
      · exact ih hkeeps hrest
      · simp only [conf_called]
        exact hkeeps
      · have hname : IsServerList Server name :=
          hpatch name (eq_of_ntpServer hentry ▸ List.mem_cons_self)
        have hwrote := keeps_wrote hlib hsave hkeeps hname
        dsimp only
        cases (writeNTPServer host.lib host.save s.conf name).1 with
        | some err => exact hwrote
        | none => exact ih hwrote hrest
      · exact hkeeps
      · exact hkeeps

end TimeState

/-! ## The page and the machine in step -/

namespace TimePage

variable {β ν τ M : Type*} (host : TimeHost β ν τ) (ntp : τ → Bool) (timezone : τ → String)
  (s : TimePage β τ)

/-- The button that is right. -/
def rightSource : TimeSource := sourceOf (ntp s.server.timedated) (s.server.ntpServer host)

/-- What the page has of the settings is what the machine has; and once it has been fetched, what it
lacks is empty. -/
structure InStep : Prop where
  source : ∀ src, s.model.timeSource = some src → src = s.rightSource host ntp
  flag : ∀ b, s.model.info.ntp = some b → b = ntp s.server.timedated
  name : ∀ name, s.model.info.ntpServer = some name → name = s.server.ntpServer host
  zone : ∀ name, s.model.info.timezone = some name → name = timezone s.server.timedated
  fetched : s.model.reallyIsNew = true →
    s.model.info.ntp.getD false = ntp s.server.timedated ∧
      s.model.info.ntpServer.getD "" = s.server.ntpServer host ∧
      s.model.info.timezone.getD "" = timezone s.server.timedated

/-- What is shown of it: the button that is right, and the machine's time zone, if there is an option
for it. -/
def Shows (mathSign : Bool) : Prop :=
  s.model.source = s.rightSource host ntp ∧
    ((s.model.zone mathSign).name = timezone s.server.timedated ↔
      ∃ tz ∈ timeZones, tz.name = timezone s.server.timedated)

/-- The name of the server comes up before the flag. -/
def ServerFirst (order : MapOrder (String × JSON ν)) : Prop :=
  order.of [("ntp", .bool true), ("ntpServer", .string "")]
    = [("ntpServer", .string ""), ("ntp", .bool true)]

/-- What there is to check for a button, once the page has been fetched. -/
def CleanSource (order : MapOrder (String × JSON ν)) : TimeSource → Prop
  | .automatic =>
      (ntp s.server.timedated = true ∨ (s.server.Accepts host ⟨"SetNTP", .bool true⟩ ∧
          (ServerFirst order → HasTime host.lib s.server.conf))) ∧
        (ServerFirst order → (ntpServers host.lib s.server.conf).tail.headD "" = "") ∧
        (¬ ServerFirst order → s.server.ntpServer host = "")
  | .custom =>
      (ntp s.server.timedated = true ∨ s.server.Accepts host ⟨"SetNTP", .bool true⟩) ∧
        s.server.ntpServer host ≠ ""
  | .manual => ntp s.server.timedated = false ∨ s.server.Accepts host ⟨"SetNTP", .bool false⟩

/-- What the user chooses comes to the machine as it is on the page: before the page has been fetched,
it is what the machine has already. -/
def Clean (order : MapOrder (String × JSON ν)) : TimeEdit → Prop
  | .source src =>
      if s.model.reallyIsNew then s.CleanSource host ntp order src else src = s.rightSource host ntp
  | .ntpServer name =>
      s.model.info.ntpServer = some name ∨
        (if s.model.reallyIsNew then
          (HasTime host.lib s.server.conf →
              (host.lib.after (ntpServers host.lib s.server.conf) name).headD "" = name) ∧
            (¬ HasTime host.lib s.server.conf → name = "") ∧
            (s.model.timeSource.isSome → name ≠ "")
        else name = s.server.ntpServer host)
  | .timezone name =>
      s.model.info.timezone = some name ∨ timezone s.server.timedated = name ∨
        (s.model.reallyIsNew = true ∧ s.server.Accepts host ⟨"SetTimezone", .string name⟩)
  | .date _ => True
  | .time _ => True

variable {host ntp timezone s} {lib : MomentLib M} {order : MapOrder (String × JSON ν)} {now : ℤ}
  {Server : String → Prop} {Kept : File → Prop}

lemma sourceOf_eq_manual_iff {ntp : Bool} {server : String} :
    sourceOf ntp server = .manual ↔ ntp = false := by
  cases ntp <;> by_cases hserver : server = "" <;> simp [sourceOf, hserver]

lemma sourceOf_eq_automatic_iff {ntp : Bool} {server : String} :
    sourceOf ntp server = .automatic ↔ ntp = true ∧ server = "" := by
  cases ntp <;> by_cases hserver : server = "" <;> simp [sourceOf, hserver]

lemma sourceOf_eq_custom_iff {ntp : Bool} {server : String} :
    sourceOf ntp server = .custom ↔ ntp = true ∧ server ≠ "" := by
  cases ntp <;> by_cases hserver : server = "" <;> simp [sourceOf, hserver]

/-- The zone that is selected is the first of that name, or else the one for the offset. -/
lemma zone_eq (mathSign : Bool) (m : TimeModel) :
    m.zone mathSign = (timeZones.find? fun tz => some tz.name = m.info.timezone).getD
      (pickTimeZoneFromOffset mathSign (m.info.offset.getD 0)) := by
  rw [TimeModel.zone, ← List.head?_filter]
  generalize List.filter _ timeZones = candidateTZ
  cases candidateTZ <;> rfl

/-- Where there is an option for the zone, it is selected. -/
lemma name_zone_eq_iff (mathSign : Bool) {m : TimeModel} {name : String}
    (hname : m.info.timezone.getD "" = name) :
    (m.zone mathSign).name = name ↔ ∃ tz ∈ timeZones, tz.name = name := by
  rw [zone_eq]
  cases hfind : timeZones.find? fun tz => some tz.name = m.info.timezone with
  | some tz =>
      have hzone : some tz.name = m.info.timezone := by simpa using List.find?_some hfind
      rw [← hzone] at hname
      exact iff_of_true hname ⟨tz, List.mem_of_find?_eq_some hfind, hname⟩
  | none =>
      refine ⟨fun h => ⟨_, pickTimeZoneFromOffset_mem mathSign _, h⟩, ?_⟩
      rintro ⟨tz, htz, hzone⟩
      -- the model has no name, and no option has an empty one
      have hnone : m.info.timezone = none := by
        rw [Option.eq_none_iff_forall_ne_some]
        intro zone htimezone
        rw [htimezone] at hname
        have hne := List.find?_eq_none.mp hfind tz htz
        rw [hzone, ← hname, htimezone] at hne
        simp at hne
      have hnonempty : ∀ tz ∈ timeZones, tz.name ≠ "" := by decide +kernel
      rw [hnone] at hname
      exact absurd (hzone.trans hname.symm) (hnonempty tz htz)

/-- Once the page has been fetched, what it shows is what the machine has. -/
lemma InStep.shows (h : s.InStep host ntp timezone) (mathSign : Bool)
    (hnew : s.model.reallyIsNew = true) : s.Shows host ntp timezone mathSign := by
  obtain ⟨hntp, hserver, hzone⟩ := h.fetched hnew
  refine ⟨?_, name_zone_eq_iff mathSign hzone⟩
  rw [TimeModel.source, hntp, hserver]
  cases hsource : s.model.timeSource with
  | none => rfl
  | some src => exact h.source src hsource

/-- A button is checked, and the machine comes to something. -/
lemma inStep_source_iff (h : s.InStep host ntp timezone) (src : TimeSource)
    (attrs : List (String × JSON ℤ)) {server : TimeState β τ}
    (htimezone : timezone server.timedated = timezone s.server.timedated)
    (hserver : src ≠ .automatic → server.ntpServer host = s.server.ntpServer host)
    (hntp : (s.saving attrs).info.ntp = some (decide (src ≠ .manual)))
    (hname : (s.saving attrs).info.ntpServer
      = if src = .automatic then some "" else s.model.info.ntpServer)
    (hzone : (s.saving attrs).info.timezone = s.model.info.timezone) {C : Prop}
    (hclean : src = sourceOf (ntp server.timedated) (server.ntpServer host) ↔ C) :
    ({ s with model := { s.saving attrs with timeSource := some src }, server } : TimePage β τ).InStep
        host ntp timezone ↔ C := by
  rw [← hclean]
  constructor
  · exact fun h' => h'.source src rfl
  · intro hsrc
    have hflag : decide (src ≠ .manual) = ntp server.timedated := by
      cases hon : ntp server.timedated with
      | false =>
          rw [hon] at hsrc
          rw [hsrc]
          rfl
      | true =>
          have hne : src ≠ .manual := by
            rw [hsrc, hon, ne_eq, sourceOf_eq_manual_iff]
            decide
          rw [decide_eq_true hne]
    have hempty : src = .automatic → server.ntpServer host = "" := fun hauto =>
      (sourceOf_eq_automatic_iff.mp (hsrc.symm.trans hauto)).2
    refine ⟨?_, ?_, ?_, ?_, ?_⟩
    · rintro _ ⟨⟩
      exact hsrc
    · intro b hb
      rw [← hflag]
      exact Option.some_inj.mp (hb.symm.trans hntp)
    · intro name hname'
      have hname'' := hname'.symm.trans hname
      split_ifs at hname'' with hauto
      · cases hname''
        exact (hempty hauto).symm
      · rw [hserver hauto]
        exact h.name name hname''.symm
    · intro name hname'
      rw [htimezone]
      exact h.zone name (hzone.symm.trans hname')
    · intro hnew
      obtain ⟨-, hserver', hzone'⟩ := h.fetched hnew
      refine ⟨?_, ?_, ?_⟩
      · show (s.saving attrs).info.ntp.getD false = _
        rw [hntp, Option.getD_some, hflag]
      · show (s.saving attrs).info.ntpServer.getD "" = _
        rw [hname]
        split_ifs with hauto
        · exact (hempty hauto).symm
        · rw [hserver', hserver hauto]
      · show (s.saving attrs).info.timezone.getD "" = _
        rw [hzone, hzone', htimezone]

/-! ### What an edit does -/

variable (host s order now) in
/-- Before the page has been fetched, nothing that is saved gets through. -/
lemma server_of_new (hnew : s.model.reallyIsNew = false) (attrs : List (String × JSON ℤ)) :
    (handleTimeInfo host order now s.server ((s.saving attrs).request attrs)).2 = s.server :=
  served_other (by simp [TimeModel.request, saving, hnew])

/-- After it, members without numbers do. -/
lemma server_of_fetched (hnew : s.model.reallyIsNew = true) {attrs : List (String × JSON ℤ)}
    (hflat : ∀ e ∈ attrs, isFlat e.2 = true) (hkeys : (attrs.map Prod.fst).Nodup) :
    (handleTimeInfo host order now s.server ((s.saving attrs).request attrs)).2 =
      if JSON.allMembers host.inRange (JSON.loadMembers toString attrs) then
        (s.server.setTimeInfo host (order.of (attrs.map host.entry))).2
      else s.server := by
  have hrequest : (s.saving attrs).request attrs =
      { method := "PATCH", contentType := "application/json", body := some (membersBody attrs) } := by
    simp [TimeModel.request, saving, hnew]
  rw [hrequest, served_patch hflat hkeys]

/-- A flag alone. -/
lemma server_of_flag (hnew : s.model.reallyIsNew = true) (b : Bool) :
    (handleTimeInfo host order now s.server ((s.saving [("ntp", .bool b)]).request
        [("ntp", .bool b)])).2 = s.server.called host ⟨"SetNTP", .bool b⟩ := by
  rw [server_of_fetched hnew (by simp [isFlat]) (by simp), List.map_singleton, MapOrder.of_singleton]
  exact TimeState.setTimeInfo_ntp b []

/-- The name of a server alone. -/
lemma server_of_name (hnew : s.model.reallyIsNew = true) (name : String) :
    (handleTimeInfo host order now s.server ((s.saving [("ntpServer", .string name)]).request
        [("ntpServer", .string name)])).2 = s.server.wrote host name := by
  rw [server_of_fetched hnew (by simp [isFlat]) (by simp), List.map_singleton, MapOrder.of_singleton]
  refine (TimeState.setTimeInfo_ntpServer name []).trans ?_
  split <;> rfl

/-- A time zone alone. -/
lemma server_of_zone (hnew : s.model.reallyIsNew = true) (name : String) :
    (handleTimeInfo host order now s.server ((s.saving [("timezone", .string name)]).request
        [("timezone", .string name)])).2 = s.server.called host ⟨"SetTimezone", .string name⟩ := by
  rw [server_of_fetched hnew (by simp [isFlat]) (by simp), List.map_singleton, MapOrder.of_singleton,
    TimeState.setTimeInfo_cons]
  rfl

variable (host s order now) in
/-- A time alone: `timedated` is called, or nothing is done. -/
lemma server_of_time (z : ℤ) :
    (handleTimeInfo host order now s.server ((s.saving [("dateTime", .number z)]).request
        [("dateTime", .number z)])).2 = s.server ∨
      ∃ n, (handleTimeInfo host order now s.server ((s.saving [("dateTime", .number z)]).request
        [("dateTime", .number z)])).2 = s.server.called host ⟨"SetTime", .int64 n⟩ := by
  cases hnew : s.model.reallyIsNew with
  | false => exact .inl (server_of_new host s order now hnew _)
  | true =>
      rw [server_of_fetched hnew (by simp [isFlat]) (by simp), List.map_singleton,
        MapOrder.of_singleton, TimeState.setTimeInfo_cons]
      split_ifs
      · exact .inr ⟨_, rfl⟩
      · exact .inl rfl

/-- The flag and the name of no server. -/
lemma server_of_reset (hnew : s.model.reallyIsNew = true) :
    (handleTimeInfo host order now s.server
        ((s.saving [("ntp", .bool true), ("ntpServer", .string "")]).request
          [("ntp", .bool true), ("ntpServer", .string "")])).2
      = (s.server.setTimeInfo host
          (order.of [("ntp", .bool true), ("ntpServer", .string "")])).2 := by
  rw [server_of_fetched hnew (by simp [isFlat]) (by simp)]
  rfl

variable (order) in
/-- What is left of the servers and the flag when both are reset. -/
lemma reset_iff (hlib : host.lib.Lawful Server Kept) (hsave : host.save = .done)
    (hkeeps : host.lib.Keeps Server Kept s.server.conf)
    (hdoc : host.timedated.Documented ntp timezone) :
    let server := (s.server.setTimeInfo host
      (order.of [("ntp", .bool true), ("ntpServer", .string "")])).2
    timezone server.timedated = timezone s.server.timedated ∧
      (ntp server.timedated = true ∧ server.ntpServer host = "" ↔
        s.CleanSource host ntp order .automatic) := by
  intro server
  by_cases hfirst : ServerFirst order
  · by_cases htime : HasTime host.lib s.server.conf
    · obtain ⟨hwritten, hname⟩ := TimeState.wrote_of_hasTime hlib hsave hkeeps htime isServerList_empty
      have hserver : server = (s.server.wrote host "").called host ⟨"SetNTP", .bool true⟩ := by
        simp only [server]
        rw [hfirst, TimeState.setTimeInfo_ntpServer, hwritten]
        exact TimeState.setTimeInfo_ntp true []
      have hafter : host.lib.after (ntpServers host.lib s.server.conf) ""
          = (ntpServers host.lib s.server.conf).tail := if_pos rfl
      rw [hserver, TimeState.timezone_called_ntp hdoc, TimeState.ntp_called_iff hdoc,
        TimeState.ntpServer_called, hname, hafter]
      refine ⟨rfl, and_congr ?_ ?_⟩
      · exact or_congr Iff.rfl ⟨fun h => ⟨h, fun _ => htime⟩, fun h => h.1⟩
      · exact ⟨fun h => ⟨fun _ => h, fun hnot => absurd hfirst hnot⟩, fun h => h.1 hfirst⟩
    · obtain ⟨⟨err, hwritten⟩, hkept, hname⟩ := TimeState.wrote_of_not_hasTime htime ""
      have hserver : server = s.server := by
        simp only [server]
        rw [hfirst, TimeState.setTimeInfo_ntpServer, hwritten]
        exact hkept
      rw [hserver, hname]
      refine ⟨rfl, and_congr ?_ (iff_of_true rfl ⟨fun _ => ?_, fun hnot => absurd hfirst hnot⟩)⟩
      · exact ⟨.inl, fun h => h.resolve_right fun haccepts => htime (haccepts.2 hfirst)⟩
      · rw [TimeState.ntpServers_of_not_hasTime htime]
        rfl
  · have hserver : server = s.server.called host ⟨"SetNTP", .bool true⟩ := by
      simp only [server]
      rw [(order.of_pair _ _).resolve_right hfirst, TimeState.setTimeInfo_ntp]
    rw [hserver, TimeState.timezone_called_ntp hdoc, TimeState.ntp_called_iff hdoc,
      TimeState.ntpServer_called]
    refine ⟨rfl, and_congr (or_congr Iff.rfl ?_) ?_⟩
    · exact ⟨fun h => ⟨h, fun hnot => absurd hnot hfirst⟩, fun h => h.1⟩
    · exact ⟨fun h => ⟨fun hnot => absurd hnot hfirst, fun _ => h⟩, fun h => h.2 hfirst⟩

/-! ### Each event -/

/-- A button is checked. -/
lemma inStep_edited_source_iff (hlib : host.lib.Lawful Server Kept) (hsave : host.save = .done)
    (hkeeps : host.lib.Keeps Server Kept s.server.conf)
    (hdoc : host.timedated.Documented ntp timezone) (h : s.InStep host ntp timezone)
    (src : TimeSource) :
    (s.edited lib host order now (.source src)).InStep host ntp timezone ↔
      s.Clean host ntp timezone order (.source src) := by
  cases hnew : s.model.reallyIsNew with
  | false =>
      have hserver := server_of_new host s order now hnew
      simp only [Clean, hnew, Bool.false_eq_true, if_false]
      cases src <;> simp only [edited, TimeEdit.saved, TimeEdit.timeSource, hserver]
      · exact inStep_source_iff h .automatic _ rfl (fun _ => rfl) rfl rfl rfl Iff.rfl
      · exact inStep_source_iff h .custom _ rfl (fun _ => rfl) rfl rfl rfl Iff.rfl
      · exact inStep_source_iff h .manual _ rfl (fun _ => rfl) rfl rfl rfl Iff.rfl
  | true =>
      simp only [Clean, hnew, if_true]
      cases src with
      | automatic =>
          obtain ⟨htimezone, hreset⟩ := reset_iff order hlib hsave hkeeps hdoc
          simp only [edited, TimeEdit.saved, TimeEdit.timeSource, server_of_reset hnew]
          refine inStep_source_iff h .automatic _ htimezone (absurd rfl) rfl rfl rfl ?_
          rw [eq_comm, sourceOf_eq_automatic_iff]
          exact hreset
      | custom =>
          simp only [edited, TimeEdit.saved, TimeEdit.timeSource, server_of_flag hnew]
          refine inStep_source_iff h .custom _ (TimeState.timezone_called_ntp hdoc true)
            (fun _ => TimeState.ntpServer_called _) rfl rfl rfl ?_
          rw [eq_comm, sourceOf_eq_custom_iff, TimeState.ntp_called_iff hdoc,
            TimeState.ntpServer_called]
          exact Iff.rfl
      | manual =>
          simp only [edited, TimeEdit.saved, TimeEdit.timeSource, server_of_flag hnew]
          refine inStep_source_iff h .manual _ (TimeState.timezone_called_ntp hdoc false)
            (fun _ => TimeState.ntpServer_called _) rfl rfl rfl ?_
          rw [eq_comm, sourceOf_eq_manual_iff, TimeState.ntp_called_iff hdoc]
          exact Iff.rfl

/-- The name of a server is changed, and the machine comes to something. -/
lemma inStep_name_iff (h : s.InStep host ntp timezone) (name : String) {server : TimeState β τ}
    (htimedated : server.timedated = s.server.timedated) :
    ({ s with
        model := { s.saving [("ntpServer", .string name)] with timeSource := s.model.timeSource }
        server } : TimePage β τ).InStep host ntp timezone ↔
      name = server.ntpServer host ∧ ∀ src, s.model.timeSource = some src →
        src = sourceOf (ntp s.server.timedated) (server.ntpServer host) := by
  constructor
  · intro h'
    refine ⟨h'.name name rfl, fun src hsrc => ?_⟩
    rw [← htimedated]
    exact h'.source src hsrc
  · rintro ⟨hname, hsource⟩
    refine ⟨?_, ?_, ?_, ?_, ?_⟩
    · intro src hsrc
      rw [rightSource, htimedated]
      exact hsource src hsrc
    · intro b hb
      rw [htimedated]
      exact h.flag b hb
    · rintro _ ⟨⟩
      exact hname
    · intro zone hzone
      rw [htimedated]
      exact h.zone zone hzone
    · intro hnew
      obtain ⟨hntp, -, hzone⟩ := h.fetched hnew
      rw [htimedated]
      exact ⟨hntp, hname, hzone⟩

lemma inStep_edited_name_iff (hlib : host.lib.Lawful Server Kept) (hsave : host.save = .done)
    (hkeeps : host.lib.Keeps Server Kept s.server.conf) (h : s.InStep host ntp timezone)
    {name : String} (hlist : IsServerList Server name)
    (henabled : (TimeEdit.ntpServer name).disabled s.model = false) :
    (s.edited lib host order now (.ntpServer name)).InStep host ntp timezone ↔
      s.Clean host ntp timezone order (.ntpServer name) := by
  by_cases hsame : s.model.info.ntpServer = some name
  · have hkept : s.edited lib host order now (.ntpServer name) = s := by
      simp [edited, TimeEdit.saved, hsame]
    rw [hkept]
    exact iff_of_true h (.inl hsame)
  · have hsaved : (TimeEdit.ntpServer name).saved lib s.model.info
        = some [("ntpServer", .string name)] := if_neg hsame
    have hcustom : s.model.source = .custom := by simpa [TimeEdit.disabled] using henabled
    -- The button that is checked is the right one, if the user has chosen one.
    have hchosen : ∀ src, s.model.timeSource = some src →
        src = .custom ∧ ntp s.server.timedated = true := by
      intro src hsrc
      have hsrc' : src = .custom := by rw [← hcustom, TimeModel.source, hsrc, Option.getD_some]
      exact ⟨hsrc', (sourceOf_eq_custom_iff.mp (hsrc' ▸ h.source src hsrc).symm).1⟩
    have hright : ∀ server : TimeState β τ, name = server.ntpServer host →
        ((∀ src, s.model.timeSource = some src →
            src = sourceOf (ntp s.server.timedated) (server.ntpServer host)) ↔
          (s.model.timeSource.isSome → name ≠ "")) := by
      intro server hname
      rw [← hname]
      cases hsrc : s.model.timeSource with
      | none => simp
      | some src =>
          obtain ⟨rfl, hntp⟩ := hchosen src hsrc
          simp [hntp, eq_comm (a := TimeSource.custom), sourceOf_eq_custom_iff]
    cases hnew : s.model.reallyIsNew with
    | false =>
        simp only [edited, hsaved, TimeEdit.timeSource, server_of_new host s order now hnew, Clean, hnew, hsame,
          false_or, Bool.false_eq_true, if_false]
        refine (inStep_name_iff h name rfl).trans (and_iff_left_of_imp fun hname => ?_)
        intro src hsrc
        exact h.source src hsrc
    | true =>
        simp only [edited, hsaved, TimeEdit.timeSource, server_of_name hnew, Clean, hnew, hsame,
          false_or, if_true]
        have htimedated : (s.server.wrote host name).timedated = s.server.timedated := rfl
        refine (inStep_name_iff h name htimedated).trans ?_
        rw [and_congr_right (hright _)]
        by_cases htime : HasTime host.lib s.server.conf
        · rw [(TimeState.wrote_of_hasTime hlib hsave hkeeps htime hlist).2]
          simp only [htime, true_imp_iff, not_true, false_imp_iff, true_and, eq_comm]
        · obtain ⟨-, hkept, hempty⟩ := TimeState.wrote_of_not_hasTime htime name
          rw [hkept, hempty]
          simp only [htime, false_imp_iff, not_false_eq_true, true_imp_iff, true_and]

/-- A time zone is selected. -/
lemma inStep_edited_zone_iff (hdoc : host.timedated.Documented ntp timezone)
    (h : s.InStep host ntp timezone) (name : String) :
    (s.edited lib host order now (.timezone name)).InStep host ntp timezone ↔
      s.Clean host ntp timezone order (.timezone name) := by
  by_cases hsame : s.model.info.timezone = some name
  · have hkept : s.edited lib host order now (.timezone name) = s := by
      simp [edited, TimeEdit.saved, hsame]
    rw [hkept]
    exact iff_of_true h (.inl hsame)
  · have hsaved : (TimeEdit.timezone name).saved lib s.model.info
        = some [("timezone", .string name)] := if_neg hsame
    have hset : ∀ server : TimeState β τ, ntp server.timedated = ntp s.server.timedated →
        server.ntpServer host = s.server.ntpServer host →
        (({ s with
            model := { s.saving [("timezone", .string name)] with timeSource := s.model.timeSource }
            server } : TimePage β τ).InStep host ntp timezone ↔
          timezone server.timedated = name) := by
      intro server hntp hserver
      constructor
      · exact fun h' => (h'.zone name rfl).symm
      · intro hzone
        refine ⟨?_, ?_, ?_, ?_, ?_⟩
        · intro src hsrc
          rw [rightSource, hntp, hserver]
          exact h.source src hsrc
        · intro b hb
          rw [hntp]
          exact h.flag b hb
        · intro server' hserver'
          rw [hserver]
          exact h.name server' hserver'
        · rintro _ ⟨⟩
          exact hzone.symm
        · intro hnew
          obtain ⟨hntp', hserver', -⟩ := h.fetched hnew
          rw [hntp, hserver]
          exact ⟨hntp', hserver', hzone.symm⟩
    cases hnew : s.model.reallyIsNew with
    | false =>
        simp only [edited, hsaved, TimeEdit.timeSource, server_of_new host s order now hnew, Clean, hnew, hsame,
          false_or, Bool.false_eq_true, false_and, or_false]
        exact hset s.server rfl rfl
    | true =>
        simp only [edited, hsaved, TimeEdit.timeSource, server_of_zone hnew, Clean, hnew, hsame,
          false_or, true_and]
        refine (hset _ (TimeState.ntp_called_timezone hdoc name) (TimeState.ntpServer_called _)).trans ?_
        exact TimeState.timezone_called_iff hdoc name

/-- A date or a time of day is picked. -/
lemma InStep.time (hdoc : host.timedated.Documented ntp timezone) (h : s.InStep host ntp timezone)
    {e : TimeEdit} {z : ℤ} (hsaved : e.saved lib s.model.info = some [("dateTime", .number z)])
    (hsource : e.timeSource = none) :
    (s.edited lib host order now e).InStep host ntp timezone := by
  have hserver : ∀ server : TimeState β τ, ntp server.timedated = ntp s.server.timedated →
      timezone server.timedated = timezone s.server.timedated →
      server.ntpServer host = s.server.ntpServer host →
      ({ s with
          model := { s.saving [("dateTime", .number z)] with timeSource := s.model.timeSource }
          server } : TimePage β τ).InStep host ntp timezone := by
    intro server hntp hzone hname
    refine ⟨?_, ?_, ?_, ?_, ?_⟩
    · intro src hsrc
      rw [rightSource, hntp, hname]
      exact h.source src hsrc
    · intro b hb
      rw [hntp]
      exact h.flag b hb
    · intro server' hserver'
      rw [hname]
      exact h.name server' hserver'
    · intro zone' hzone'
      rw [hzone]
      exact h.zone zone' hzone'
    · intro hnew
      rw [hntp, hzone, hname]
      exact h.fetched hnew
  simp only [edited, hsaved, hsource]
  rcases server_of_time host s order now z with hkept | ⟨n, hcalled⟩
  · rw [hkept]
    exact hserver s.server rfl rfl rfl
  · rw [hcalled]
    obtain ⟨hntp, hzone⟩ := TimeState.called_time (s := s.server) hdoc n
    exact hserver _ hntp hzone (TimeState.ntpServer_called _)

/-- What a fetch is answered. -/
lemma getTimeInfo_ok (hdoc : host.timedated.Documented ntp timezone) {server : TimeState β τ}
    {info : TimeInfoResponse} (hinfo : server.getTimeInfo host now = .ok info) :
    info.ntp = ntp server.timedated ∧ info.timezone = timezone server.timedated ∧
      info.ntpServer = server.ntpServer host := by
  rw [TimeState.getTimeInfo] at hinfo
  split at hinfo
  · cases hinfo
  · split at hinfo
    · cases hinfo
    · next zone hzone =>
        split at hinfo
        · cases hinfo
        · next flag hflag =>
            cases hdoc.property_timezone _ _ hzone
            cases hdoc.property_ntp _ _ hflag
            dsimp only at hinfo
            split at hinfo <;> cases hinfo
            exact ⟨rfl, rfl, rfl⟩

/-- An attribute that is left out, or sent. -/
lemma omitEmpty_or {α : Type} [DecidableEq α] (zero : α) {a : α} {old : Option α}
    (hold : ∀ b, old = some b → b = a) :
    (∀ b, (omitEmpty zero a <|> old) = some b → b = a) ∧ (omitEmpty zero a <|> old).getD zero = a := by
  rw [omitEmpty]
  split_ifs with hzero
  · refine ⟨hold, ?_⟩
    cases old with
    | none => exact hzero.symm
    | some b => exact hold b rfl
  · refine ⟨?_, rfl⟩
    rintro _ ⟨⟩
    rfl

/-- The fetch is answered. -/
lemma InStep.received (hdoc : host.timedated.Documented ntp timezone)
    (h : s.InStep host ntp timezone) {info : TimeInfoResponse}
    (hinfo : s.server.getTimeInfo host now = .ok info) :
    ({ fetching := false
       model := { s.model with info := s.model.info.receive info.encode, reallyIsNew := true }
       server := s.server } : TimePage β τ).InStep host ntp timezone := by
  obtain ⟨hntp, hzone, hname⟩ := getTimeInfo_ok hdoc hinfo
  obtain ⟨hflag, hflag'⟩ := omitEmpty_or false fun b hb => (h.flag b hb).trans hntp.symm
  obtain ⟨hserver, hserver'⟩ := omitEmpty_or "" fun b hb => (h.name b hb).trans hname.symm
  obtain ⟨hzone', hzone''⟩ := omitEmpty_or "" fun b hb => (h.zone b hb).trans hzone.symm
  refine ⟨h.source, ?_, ?_, ?_, fun _ => ⟨?_, ?_, ?_⟩⟩
  · exact fun b hb => (hflag b hb).trans hntp
  · exact fun name hb => (hserver name hb).trans hname
  · exact fun zone hb => (hzone' zone hb).trans hzone
  · exact hflag'.trans hntp
  · exact hserver'.trans hname
  · exact hzone''.trans hzone

/-- A page that is opened. -/
lemma inStep_opened (server : TimeState β τ) : (opened server).InStep host ntp timezone :=
  ⟨nofun, nofun, nofun, nofun, nofun⟩

/-- The event is no edit, or one that comes to the machine as it is on the page. -/
def CleanEvent (host : TimeHost β ν τ) (ntp : τ → Bool) (timezone : τ → String) (s : TimePage β τ) :
    TimeEvent ν → TimePage β τ → Prop
  | .edit e order _, _ => s.Clean host ntp timezone order e
  | _, _ => True

/-- What is typed is a list of servers. -/
def TypesServers (Server : String → Prop) : TimeEvent ν → Prop
  | .edit (.ntpServer name) _ _ => IsServerList Server name
  | _ => True

/-- What is saved is flat: it has no arrays and objects, and each name once. -/
lemma saved_flat {e : TimeEdit} {info : TimeInfo} {attrs : List (String × JSON ℤ)}
    (h : e.saved lib info = some attrs) :
    (∀ a ∈ attrs, isFlat a.2 = true) ∧ (attrs.map Prod.fst).Nodup := by
  cases e with
  | source src => cases src <;> cases h <;> simp [isFlat]
  | ntpServer name =>
      simp only [TimeEdit.saved] at h
      split_ifs at h
      cases h
      simp [isFlat]
  | timezone name =>
      simp only [TimeEdit.saved] at h
      split_ifs at h
      cases h
      simp [isFlat]
  | date value =>
      cases h
      exact ⟨List.forall_mem_singleton.mpr rfl, List.nodup_singleton _⟩
  | time value =>
      cases h
      exact ⟨List.forall_mem_singleton.mpr rfl, List.nodup_singleton _⟩

/-- No server is saved but the one typed, and none. -/
lemma saved_server {e : TimeEdit} {info : TimeInfo} {attrs : List (String × JSON ℤ)} {name : String}
    (h : e.saved lib info = some attrs) (hmem : ("ntpServer", .string name) ∈ attrs.map host.entry) :
    name = "" ∨ e = .ntpServer name := by
  cases e with
  | source src =>
      cases src <;> cases h <;> simp [TimeHost.entry, JSON.load] at hmem
      exact .inl hmem
  | ntpServer name' =>
      simp only [TimeEdit.saved] at h
      split_ifs at h
      cases h
      simp [TimeHost.entry, JSON.load] at hmem
      rw [hmem]
      exact .inr rfl
  | timezone name' =>
      simp only [TimeEdit.saved] at h
      split_ifs at h
      cases h
      simp [TimeHost.entry] at hmem
  | date value =>
      cases h
      have hkey : "ntpServer" = "dateTime" := congrArg Prod.fst (List.mem_singleton.mp hmem)
      exact absurd hkey (by decide)
  | time value =>
      cases h
      have hkey : "ntpServer" = "dateTime" := congrArg Prod.fst (List.mem_singleton.mp hmem)
      exact absurd hkey (by decide)

/-- The file stays one of the kind. -/
lemma keeps_edited (hlib : host.lib.Lawful Server Kept) (hsave : host.save = .done)
    (hkeeps : host.lib.Keeps Server Kept s.server.conf) {e : TimeEdit}
    (htyped : ∀ name, e = .ntpServer name → IsServerList Server name) :
    host.lib.Keeps Server Kept (s.edited lib host order now e).server.conf := by
  rw [edited]
  cases hsaved : e.saved lib s.model.info with
  | none => exact hkeeps
  | some attrs =>
      obtain ⟨hflat, hkeys⟩ := saved_flat hsaved
      cases hnew : s.model.reallyIsNew with
      | false =>
          dsimp only
          rw [server_of_new host s order now hnew]
          exact hkeeps
      | true =>
          dsimp only
          rw [server_of_fetched hnew hflat hkeys]
          split_ifs
          · refine TimeState.keeps_setTimeInfo hlib hsave hkeeps fun name hname => ?_
            rcases saved_server hsaved ((order.perm _).mem_iff.mp hname) with rfl | he
            · exact isServerList_empty
            · exact htyped name he
          · exact hkeeps

lemma keeps_next (hlib : host.lib.Lawful Server Kept) (hsave : host.save = .done)
    (hkeeps : host.lib.Keeps Server Kept s.server.conf) {e : TimeEvent ν} {s' : TimePage β τ}
    (htyped : TypesServers Server e) (hnext : s.next lib host e = some s') :
    host.lib.Keeps Server Kept s'.server.conf := by
  cases e with
  | edit e order now =>
      rw [next] at hnext
      split_ifs at hnext
      cases hnext
      refine keeps_edited hlib hsave hkeeps fun name he => ?_
      rw [he] at htyped
      exact htyped
  | fetched order now =>
      simp only [next, handleTimeInfo, if_true] at hnext
      split_ifs at hnext
      cases hinfo : s.server.getTimeInfo host now <;> rw [hinfo] at hnext <;> cases hnext <;>
        exact hkeeps
  | opened =>
      cases hnext
      exact hkeeps

/-- One event. -/
lemma inStep_next_iff (hlib : host.lib.Lawful Server Kept) (hsave : host.save = .done)
    (hkeeps : host.lib.Keeps Server Kept s.server.conf)
    (hdoc : host.timedated.Documented ntp timezone) (h : s.InStep host ntp timezone)
    {e : TimeEvent ν} {s' : TimePage β τ} (htyped : TypesServers Server e)
    (hnext : s.next lib host e = some s') :
    s'.InStep host ntp timezone ↔ s.CleanEvent host ntp timezone e s' := by
  cases e with
  | edit e order now =>
      rw [next] at hnext
      split_ifs at hnext with hdisabled
      cases hnext
      have henabled : e.disabled s.model = false := by simpa using hdisabled
      cases e with
      | source src => exact inStep_edited_source_iff hlib hsave hkeeps hdoc h src
      | ntpServer name => exact inStep_edited_name_iff hlib hsave hkeeps h htyped henabled
      | timezone name => exact inStep_edited_zone_iff hdoc h name
      | date value => exact iff_of_true (h.time hdoc rfl rfl) trivial
      | time value => exact iff_of_true (h.time hdoc rfl rfl) trivial
  | fetched order now =>
      refine iff_of_true ?_ trivial
      simp only [next, handleTimeInfo, if_true] at hnext
      split_ifs at hnext
      cases hinfo : s.server.getTimeInfo host now with
      | ok info =>
          rw [hinfo] at hnext
          cases hnext
          exact h.received hdoc hinfo
      | error err =>
          rw [hinfo] at hnext
          cases hnext
          exact ⟨h.source, h.flag, h.name, h.zone, h.fetched⟩
      | panic =>
          rw [hinfo] at hnext
          cases hnext
          exact ⟨h.source, h.flag, h.name, h.zone, h.fetched⟩
  | opened =>
      cases hnext
      exact iff_of_true (inStep_opened _) trivial

end TimePage

open TimePage in
/-- **The settings of the time.**  In every run of a page and the machine, where saves of the
configuration succeed, and the servers typed and those of the file at first are such that the library
keeps them: the page has throughout what the machine has, exactly if no choice of the user comes to
something else on the machine.  Once it has been fetched, the button that is checked is then the right
one, and the time zone is the machine's where there is an option for it. -/
theorem settings_inStep_iff {β ν τ M : Type*} (lib : MomentLib M) (host : TimeHost β ν τ)
    {Server : String → Prop} {Kept : File → Prop} (hlib : host.lib.Lawful Server Kept)
    (hsave : host.save = .done) {ntp : τ → Bool} {timezone : τ → String}
    (hdoc : host.timedated.Documented ntp timezone) (mathSign : Bool) (server : TimeState β τ)
    (hkeeps : host.lib.Keeps Server Kept server.conf) {es : List (TimeEvent ν)}
    (htyped : ∀ e ∈ es, TypesServers Server e) :
    (machine lib host).Along (fun _ _ s => s.InStep host ntp timezone ∧
        (s.model.reallyIsNew = true → s.Shows host ntp timezone mathSign)) (opened server) es ↔
      (machine lib host).Along (fun s e s' => s.CleanEvent host ntp timezone e s') (opened server) es := by
  refine Machine.along_congr_of_forall (M := machine lib host)
    (I := fun s => s.InStep host ntp timezone ∧ host.lib.Keeps Server Kept s.server.conf)
    ?_ ?_ ⟨inStep_opened server, hkeeps⟩ htyped
  · rintro s e s' ⟨h, hkeeps⟩ htyped hnext
    rw [and_iff_left_of_imp fun h => h.shows mathSign]
    exact inStep_next_iff hlib hsave hkeeps hdoc h htyped hnext
  · rintro s e s' ⟨-, hkeeps⟩ htyped hnext h
    exact ⟨h.1, keeps_next hlib hsave hkeeps htyped hnext⟩

/-- A machine with `timedated` in a state of its own: whether it uses NTP, and its time zone. -/
def smallHost : TimeHost Char ℕ (Bool × String) where
  lib := timeLibrary
  save := .done
  systemBus := none
  timedated :=
    { call := fun t c =>
        match c with
        | ⟨"SetNTP", .bool b⟩ => (none, (b, t.2))
        | ⟨"SetTimezone", .string name⟩ => (none, (t.1, name))
        | ⟨"SetTime", .int64 _⟩ => (none, t)
        | _ => (some "No such method", t)
      property := fun t name =>
        if name = "org.freedesktop.timedate1.NTP" then .ok (.bool t.1) else .ok (.string t.2) }
  usec := fun _ => 0
  inRange := fun _ => true
  float := fun _ => 0
  loadLocation := fun _ => .ok fun _ => 0

lemma smallHost_documented : smallHost.timedated.Documented Prod.fst Prod.snd where
  property_ntp := by
    rintro t _ ⟨⟩
    rfl
  property_timezone := by
    rintro t _ ⟨⟩
    rfl
  refused := by
    intro t c err h
    simp only [smallHost] at h ⊢
    split at h <;> cases h
    exact ⟨rfl, rfl⟩
  setNTP := fun _ _ _ => ⟨rfl, rfl⟩
  setTimezone := fun _ _ _ => ⟨rfl, rfl⟩
  setTime := fun _ _ _ => ⟨rfl, rfl⟩

/-- The entries of a patch from the last to the first. -/
def lastFirst : MapOrder (String × JSON ℕ) := ⟨List.reverse, fun l => l.reverse_perm⟩

/-- A machine that uses one NTP server. -/
def oneServerState : TimeState Char (Bool × String) :=
  ⟨some (writeTime (some "c.org")), (true, "UTC")⟩

/-- The user types a name of two letters, and then wants no server. -/
def typing : List (TimeEvent ℕ) :=
  [.fetched lastFirst 0, .edit (.ntpServer "d") lastFirst 0, .edit (.ntpServer "de") lastFirst 0]

lemma typing_servers : ∀ e ∈ typing ++ [.edit (.source .automatic) lastFirst 0],
    TimePage.TypesServers IsName e := by
  have hname : ∀ name, IsName name → IsServerList IsName name :=
    fun name h => ⟨[name], List.forall_mem_singleton.mpr h, (joinServers_singleton name).symm⟩
  have hd := hname "d" (by decide)
  have hde := hname "de" (by decide)
  simp [typing, TimePage.TypesServers, hd, hde]

/-- The first letter alone is left as a server, and the page does not have it. -/
theorem typed_server_left :
    ¬ (TimePage.machine (momentLib 0) smallHost).Along
      (fun _ _ s => s.InStep smallHost Prod.fst Prod.snd ∧
        (s.model.reallyIsNew = true → s.Shows smallHost Prod.fst Prod.snd true))
      (TimePage.opened oneServerState) (typing ++ [.edit (.source .automatic) lastFirst 0]) := by
  intro h
  have hkeeps : timeLibrary.Keeps IsName IsTimeFile oneServerState.conf := by
    have hnames : ∀ server ∈ ["c.org"], IsName server := List.forall_mem_singleton.mpr (by decide)
    have hkeeps := timeLibrary_keeps hnames
    rw [joinServers_singleton] at hkeeps
    exact hkeeps
  have hclean := (settings_inStep_iff (momentLib 0) smallHost timeLibrary_lawful rfl
    smallHost_documented true oneServerState hkeeps typing_servers).mp h
  have hlast := hclean.last rfl rfl
  exact absurd (hlast.2.1 rfl) (by decide)

end Snapweb
