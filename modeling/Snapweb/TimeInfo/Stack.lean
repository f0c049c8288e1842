import Snapweb.TimeInfo.Timesyncd

/-!
# The NTP servers as a stack

Where each name is read as one server, the list of servers is a stack: a name goes on top unless it
is there already, and the empty name takes the top away.  That there is no server can be written in
three ways (no key, a key without a value, the last name taken away and the key with it), and all of
them are the empty stack.

* `otherSettings_call` — a call leaves the other keys and sections as they were.
* `writeNTPServer_stack` — any sequence of calls leaves the stack that it should, and the rest of the
  file as it was.
-/

namespace Snapweb

open Ini

/-- A name goes on the stack, unless it is on top; the empty name takes the top away. -/
def stackStep (stack : List String) (ntpServer : String) : List String :=
  if ntpServer = "" then stack.tail
  else if stack.head? = some ntpServer then stack
  else ntpServer :: stack

lemma stackStep_pop (stack : List String) : stackStep stack "" = stack.tail := if_pos rfl

lemma stackStep_push {stack : List String} {ntpServer : String} (hname : ntpServer ≠ "")
    (htop : stack.head? ≠ some ntpServer) : stackStep stack ntpServer = ntpServer :: stack := by
  rw [stackStep, if_neg hname, if_neg htop]

variable {β : Type*}

/-- A section whose key `NTP`, if it is there, has these servers as its value. -/
def ListsServers (sec : Section) (servers : List String) : Prop :=
  match Members.find "NTP" sec with
  | none => servers = []
  | some value => value = joinServers servers

/-- A file without its NTP servers. -/
def besidesNTP (timesyncd : File) : File :=
  timesyncd.map fun sec => if sec.1 = "Time" then (sec.1, Members.erase "NTP" sec.2) else sec

/-- What is set in a file besides the NTP servers. -/
def otherSettings (lib : Library β) (conf : Option (List β)) : Except Error File :=
  (lib.loadFile conf).map besidesNTP

/-- The file after calls whose saves succeed. -/
def writeNTPServers (lib : Library β) (conf : Option (List β)) (names : List String) :
    Option (List β) :=
  names.foldl (fun conf ntpServer => (writeNTPServer lib .done conf ntpServer).2) conf

variable {lib : Library β} {conf : Option (List β)} {Server : String → Prop} {Kept : File → Prop}

/-! ## One call -/

/-- A server is a list of one. -/
lemma isServerList_of_name {ntpServer : String} (hname : ntpServer = "" ∨ Server ntpServer) :
    IsServerList Server ntpServer := by
  rcases hname with rfl | hname
  · exact isServerList_empty
  · exact ⟨[ntpServer], List.forall_mem_singleton.mpr hname, (joinServers_singleton ntpServer).symm⟩

/-- On single servers, the list after a call is the stack after it. -/
lemma after_eq_stackStep (hlib : lib.Lawful Server Kept) (servers : List String) {ntpServer : String}
    (hname : ntpServer = "" ∨ Server ntpServer) :
    lib.after servers ntpServer = stackStep servers ntpServer := by
  rw [Library.after, stackStep]
  split_ifs with hempty
  · rfl
  · rfl
  · have hstrings := hlib.strings_join [ntpServer]
      (List.forall_mem_singleton.mpr (hname.resolve_left hempty))
    rw [joinServers_singleton] at hstrings
    rw [hstrings]
    rfl

/-- An edit of the section touches the key `NTP` alone. -/
lemma erase_editTime {sec sec' : Section} {ntpServer : String}
    (hedit : editTime lib sec ntpServer = some sec') :
    Members.erase "NTP" sec' = Members.erase "NTP" sec := by
  rw [editTime] at hedit
  split at hedit
  · dsimp only at hedit
    split_ifs at hedit <;> cases hedit
    · exact Members.erase_erase_self "NTP" sec
    all_goals exact Members.erase_insert_self "NTP" _ sec
  · split_ifs at hedit
    cases hedit
    exact Members.erase_insert_self "NTP" _ sec

lemma besidesNTP_insert {timesyncd : File} {sec sec' : Section}
    (hsec : Members.find "Time" timesyncd = some sec)
    (herase : Members.erase "NTP" sec' = Members.erase "NTP" sec) :
    besidesNTP (Members.insert "Time" sec' timesyncd) = besidesNTP timesyncd :=
  Members.map_insert hsec (by simp only [if_true, herase])

/-- A call leaves the other keys and sections as they were. -/
lemma otherSettings_call (hlib : lib.Lawful Server Kept) (hkeeps : lib.Keeps Server Kept conf)
    {ntpServer : String} (hname : IsServerList Server ntpServer) :
    otherSettings lib (writeNTPServer lib .done conf ntpServer).2 = otherSettings lib conf := by
  rw [writeNTPServer_done, editNTPServer]
  rcases hload : lib.loadFile conf with err | timesyncd
  · rfl
  · rcases hsec : Members.find "Time" timesyncd with _ | sec
    · simp only [hsec]
      rfl
    · rcases hedit : editTime lib sec ntpServer with _ | sec'
      · simp only [hsec, hedit]
        rfl
      · simp only [hsec, hedit]
        cases conf with
        | none => cases hload
        | some content =>
            have hvalue : ∀ value, Members.find "NTP" sec = some value → IsServerList Server value :=
              fun value h => hkeeps.servers value ((ntpValue_of_load hload hsec).trans h)
            have hreload : lib.loadFile (some (lib.writeTo (Members.insert "Time" sec' timesyncd)))
                = .ok (Members.insert "Time" sec' timesyncd) :=
              (reload_editTime hlib (hkeeps.kept timesyncd hload) hsec hvalue hname hedit).1.1
            rw [NTPEdit.saved, Option.map_some, otherSettings, otherSettings, hload, hreload]
            exact congrArg Except.ok (besidesNTP_insert hsec (erase_editTime hedit))

/-! ## Any number of calls -/

/-- The file stays one with a `[Time]` section, of the kind and with servers of theirs. -/
lemma writeNTPServers_spec (hlib : lib.Lawful Server Kept) {names : List String}
    (hnames : ∀ ntpServer ∈ names, ntpServer = "" ∨ Server ntpServer) (h : HasTime lib conf)
    (hkeeps : lib.Keeps Server Kept conf) :
    HasTime lib (writeNTPServers lib conf names) ∧
      lib.Keeps Server Kept (writeNTPServers lib conf names) ∧
      ntpServers lib (writeNTPServers lib conf names)
        = names.foldl stackStep (ntpServers lib conf) ∧
      otherSettings lib (writeNTPServers lib conf names) = otherSettings lib conf := by
  induction names generalizing conf with
  | nil => exact ⟨h, hkeeps, rfl, rfl⟩
  | cons ntpServer names ih =>
      have hname := hnames ntpServer List.mem_cons_self
      have hlist := isServerList_of_name hname
      obtain ⟨htime, hkeeps', hcall⟩ := ntpServers_call hlib hkeeps h hlist
      obtain ⟨htime', hkeeps'', hstack, hother⟩ :=
        ih (fun ntpServer h => hnames ntpServer (List.mem_cons_of_mem _ h)) htime hkeeps'
      rw [hcall, after_eq_stackStep hlib _ hname] at hstack
      exact ⟨htime', hkeeps'', hstack, hother.trans (otherSettings_call hlib hkeeps hlist)⟩

/-- The servers that a file lists. -/
lemma ntpServers_of_lists (hlib : lib.Lawful Server Kept) {timesyncd : File} {sec : Section}
    {servers : List String} (hload : lib.loadFile conf = .ok timesyncd) (hkept : Kept timesyncd)
    (hsec : Members.find "Time" timesyncd = some sec) (hlists : ListsServers sec servers)
    (hservers : ∀ server ∈ servers, Server server) :
    lib.Keeps Server Kept conf ∧ ntpServers lib conf = servers := by
  have hntp := ntpValue_of_load hload hsec
  have hkept' : ∀ timesyncd', lib.loadFile conf = .ok timesyncd' → Kept timesyncd' := by
    intro timesyncd' hload'
    cases hload.symm.trans hload'
    exact hkept
  rw [ntpServers, hntp]
  rw [ListsServers] at hlists
  rcases hvalue : Members.find "NTP" sec with _ | value
  · rw [hvalue] at hlists hntp
    refine ⟨⟨hkept', fun value h => ?_⟩, hlists.symm⟩
    cases hntp.symm.trans h
  · rw [hvalue] at hlists hntp
    refine ⟨⟨hkept', fun value' h => ?_⟩, ?_⟩
    · cases hntp.symm.trans h
      exact ⟨servers, hservers, hlists⟩
    · rw [hlists]
      exact hlib.strings_join servers hservers

/-- **A stack of servers.**  Whatever names the library keeps as they are (those without white space,
where it reloads what it saved): after any calls with such names and empty names the list is the stack
that they leave, its top is what is reported, and nothing else in the file has changed; a name that was
not on top is taken away again by an empty one. -/
theorem writeNTPServer_stack (hlib : lib.Lawful Server Kept) {timesyncd : File} {sec : Section}
    {servers : List String} (hload : lib.loadFile conf = .ok timesyncd) (hkept : Kept timesyncd)
    (hsec : Members.find "Time" timesyncd = some sec) (hlists : ListsServers sec servers)
    (hservers : ∀ server ∈ servers, Server server) {names : List String}
    (hnames : ∀ ntpServer ∈ names, ntpServer = "" ∨ Server ntpServer) :
    let conf' := writeNTPServers lib conf names
    let stack := names.foldl stackStep servers
    ntpServers lib conf' = stack ∧ readNTPServer lib conf' = stack.headD "" ∧
      otherSettings lib conf' = .ok (besidesNTP timesyncd) ∧
      ∀ ntpServer, Server ntpServer → stack.head? ≠ some ntpServer →
        ntpServers lib (writeNTPServers lib conf' [ntpServer, ""]) = stack := by
  obtain ⟨hkeeps, hstart⟩ := ntpServers_of_lists hlib hload hkept hsec hlists hservers
  obtain ⟨htime, hkeeps', hstack, hother⟩ :=
    writeNTPServers_spec hlib hnames ⟨timesyncd, sec, hload, hsec⟩ hkeeps
  rw [hstart] at hstack
  refine ⟨hstack, readNTPServer_eq.trans (congrArg (List.headD · "") hstack), ?_, ?_⟩
  · rw [hother, otherSettings, hload]
    rfl
  · intro ntpServer hname htop
    have hpair : ∀ name ∈ [ntpServer, ""], name = "" ∨ Server name := by
      rintro name hmem
      rcases List.mem_cons.mp hmem with rfl | hmem
      · exact .inr hname
      · exact .inl (List.mem_singleton.mp hmem)
    rw [(writeNTPServers_spec hlib hpair htime hkeeps').2.2.1, hstack, List.foldl_cons,
      List.foldl_cons, List.foldl_nil, stackStep_push (hlib.ne_empty hname) htop, stackStep_pop,
      List.tail_cons]

/-- One server in the file, and calls that put one before it, and again, and take both away. -/
theorem writeNTPServer_stack_example :
    let conf := some (writeTime (some "ntp.ubuntu.com"))
    let names := ["time.example.com", "time.example.com", "", "", ""]
    ntpServers timeLibrary (writeNTPServers timeLibrary conf names)
      = names.foldl stackStep ["ntp.ubuntu.com"] := by
  intro conf names
  have hload : timeLibrary.loadFile (some (writeTime (some "ntp.ubuntu.com")))
      = .ok (timeFile (some "ntp.ubuntu.com")) := load_writeTime _
  have hlists : ListsServers [("NTP", "ntp.ubuntu.com")] ["ntp.ubuntu.com"] :=
    (joinServers_singleton "ntp.ubuntu.com").symm
  have hubuntu : IsName "ntp.ubuntu.com" := by decide
  have hexample : IsName "time.example.com" := by decide
  refine (writeNTPServer_stack timeLibrary_lawful hload ⟨_, rfl⟩ rfl hlists
    (List.forall_mem_singleton.mpr hubuntu) ?_).1
  simp [names, hexample]

end Snapweb
