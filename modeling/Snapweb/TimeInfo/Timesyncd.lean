import Snapweb.Core.Members
import Snapweb.Core.Outcome

/-!
# The NTP servers

`datetime.go`: the NTP servers are a list in the `[Time]` section of `timesyncd.conf`, read and
written with the `ini` library.  Writing a server puts it before the others, and writing the empty
name takes the first one away.

The library is a parameter: what it reads in the content of a file, what it writes, and how it
splits a value.  `Library.Lawful` is what is relied on of it, for names that it keeps as they are: it
trims a value, takes quotes off it, and reads `#` and `;` as the start of a comment.

* `editNTPServer_spec` — what `writeNTPServer` saves, if anything, in terms of the list.
* `ntpServers_call` — the list after a call whose save succeeds.
* `readNTPServer_agree_iff` — the copy of the reader in `snapd_client.go`, against it.
-/

namespace Snapweb

namespace Ini

/-- A section: its keys with their values, in order. -/
abbrev Section := List (String × String)

/-- `ini.File`: sections by name. -/
abbrev File := List (String × Section)

/-- The `ini` library, over files whose content is made of `β`. -/
structure Library (β : Type*) where
  load : List β → Except Error File
  /-- The error of `Load` for a file that is not there. -/
  noFile : Error
  /-- The error of `GetSection` for a section that is not there. -/
  noSection : Error
  writeTo : File → List β
  /-- `Key.Strings` of a value, with a blank as the delimiter. -/
  strings : String → List String

end Ini

open Ini

variable {β : Type*}

/-- `strings.Join`, with blanks. -/
def joinServers (servers : List String) : String :=
  String.ofList ([' '].intercalate (servers.map String.toList))

/-- `ini.Load` of the file, which may not be there. -/
def Ini.Library.loadFile (lib : Library β) : Option (List β) → Except Error File
  | none => .error lib.noFile
  | some content => lib.load content

/-- How a save ends: all is written, the file cannot be opened (or truncated), the write fails after
`written` bytes, or only `written` bytes get through when the buffer is flushed. -/
inductive SaveResult
  | done
  | refused (err : Error)
  | short (written : ℕ) (err : Error)
  | unflushed (written : ℕ)
  deriving DecidableEq, Repr

/-- `saveTimeSyncd`: the content of the file after the save. -/
def SaveResult.content (old new : List β) : SaveResult → List β
  | done => new
  | refused _ => old
  | short written _ => new.take written
  | unflushed written => new.take written

/-- `saveTimeSyncd`: its error.  What `Flush` returns is dropped. -/
def SaveResult.error : SaveResult → Option Error
  | done => none
  | refused err => some err
  | short _ err => some err
  | unflushed _ => none

/-- What `writeNTPServer` has come to before it saves. -/
inductive NTPEdit
  | failed (err : Error)
  | unchanged
  | save (file : File)

/-- `writeNTPServer`: the `[Time]` section to save, `none` if there is nothing to save. -/
def editTime (lib : Library β) (sec : Section) (ntpServer : String) : Option Section :=
  match Members.find "NTP" sec with
  | some value =>
      let servers := lib.strings value
      if ntpServer = "" then
        let servers := servers.tail
        if servers = [] then some (Members.erase "NTP" sec)
        else some (Members.insert "NTP" (joinServers servers) sec)
      else if servers.head? = some ntpServer then none
      else some (Members.insert "NTP" (joinServers (ntpServer :: servers)) sec)
  | none => if ntpServer = "" then none else some (Members.insert "NTP" ntpServer sec)

/-- `writeNTPServer`, up to the save. -/
def editNTPServer (lib : Library β) (conf : Option (List β)) (ntpServer : String) : NTPEdit :=
  match lib.loadFile conf with
  | .error err => .failed err
  | .ok timesyncd =>
      match Members.find "Time" timesyncd with
      | none => .failed lib.noSection
      | some sec =>
          match editTime lib sec ntpServer with
          | none => .unchanged
          | some sec => .save (Members.insert "Time" sec timesyncd)

/-- `writeNTPServer`: its error, and the file it leaves. -/
def writeNTPServer (lib : Library β) (result : SaveResult) (conf : Option (List β))
    (ntpServer : String) : Option Error × Option (List β) :=
  match editNTPServer lib conf ntpServer with
  | .failed err => (some err, conf)
  | .unchanged => (none, conf)
  | .save timesyncd =>
      (result.error, conf.map fun old => result.content old (lib.writeTo timesyncd))

/-! ## The list of servers -/

/-- The value of the key `NTP`. -/
def ntpValue (lib : Library β) (conf : Option (List β)) : Option String :=
  match lib.loadFile conf with
  | .error _ => none
  | .ok timesyncd => (Members.find "Time" timesyncd).bind (Members.find "NTP")

/-- The servers in a value of the key, none if it has none. -/
def Ini.Library.servers (lib : Library β) : Option String → List String
  | none => []
  | some value => lib.strings value

/-- The servers that the file lists, none if it lists none or cannot be read. -/
def ntpServers (lib : Library β) (conf : Option (List β)) : List String :=
  lib.servers (ntpValue lib conf)

/-- `readNTPServer`. -/
def readNTPServer (lib : Library β) (conf : Option (List β)) : String :=
  match lib.loadFile conf with
  | .error _ => ""
  | .ok timesyncd =>
      match Members.find "Time" timesyncd with
      | none => ""
      | some sec =>
          match Members.find "NTP" sec with
          | none => ""
          | some value =>
              match lib.strings value with
              | [] => ""
              | server :: _ => server

variable {lib : Library β} {conf : Option (List β)}

lemma ntpValue_of_load {timesyncd : File} {sec : Section}
    (hload : lib.loadFile conf = .ok timesyncd) (hsec : Members.find "Time" timesyncd = some sec) :
    ntpValue lib conf = Members.find "NTP" sec := by
  rw [ntpValue, hload]
  exact (congrArg (Option.bind · _) hsec)

/-- What is reported is the first server. -/
lemma readNTPServer_eq : readNTPServer lib conf = (ntpServers lib conf).headD "" := by
  rw [readNTPServer]
  rcases hload : lib.loadFile conf with err | timesyncd
  · simp only [ntpServers, ntpValue, hload, Library.servers, List.headD_nil]
  · rcases hsec : Members.find "Time" timesyncd with _ | sec
    · simp only [ntpServers, ntpValue, hload, hsec, Option.bind_none, Library.servers,
        List.headD_nil]
    · simp only [ntpServers, ntpValue_of_load hload hsec, hsec]
      rcases Members.find "NTP" sec with _ | value
      · rfl
      · simp only [Library.servers]
        rcases lib.strings value with _ | ⟨server, rest⟩ <;> rfl

/-- The file can be read and has a `[Time]` section. -/
def HasTime (lib : Library β) (conf : Option (List β)) : Prop :=
  ∃ timesyncd sec, lib.loadFile conf = .ok timesyncd ∧ Members.find "Time" timesyncd = some sec

/-- The servers after a call. -/
def Ini.Library.after (lib : Library β) (servers : List String) (ntpServer : String) :
    List String :=
  if ntpServer = "" then servers.tail
  else if servers.head? = some ntpServer then servers
  else lib.strings ntpServer ++ servers

/-- The call has nothing to write. -/
def NothingToWrite (lib : Library β) (conf : Option (List β)) (ntpServer : String) : Prop :=
  if ntpServer = "" then ntpValue lib conf = none
  else (ntpServers lib conf).head? = some ntpServer

/-- A value that lists servers of a kind, with blanks between them. -/
def IsServerList (Server : String → Prop) (value : String) : Prop :=
  ∃ servers : List String, (∀ server ∈ servers, Server server) ∧ value = joinServers servers

/-- The file is read back when it is written, and is of the kind. -/
def Ini.Library.Reloads (lib : Library β) (Kept : File → Prop) (timesyncd : File) : Prop :=
  lib.load (lib.writeTo timesyncd) = .ok timesyncd ∧ Kept timesyncd

/-- What is relied on of the library, for servers of a kind and for files of a kind: such a file is
read back with any such servers in it, or with none, and a list of such servers is split into them. -/
structure Ini.Library.Lawful (lib : Library β) (Server : String → Prop) (Kept : File → Prop) :
    Prop where
  reload_insert : ∀ timesyncd sec servers, Kept timesyncd →
    Members.find "Time" timesyncd = some sec → (∀ server ∈ servers, Server server) →
    lib.Reloads Kept
      (Members.insert "Time" (Members.insert "NTP" (joinServers servers) sec) timesyncd)
  reload_erase : ∀ timesyncd sec, Kept timesyncd → Members.find "Time" timesyncd = some sec →
    lib.Reloads Kept (Members.insert "Time" (Members.erase "NTP" sec) timesyncd)
  strings_join : ∀ servers, (∀ server ∈ servers, Server server) →
    lib.strings (joinServers servers) = servers

/-- The file, if it can be loaded, is of the kind, and what it lists are servers of theirs. -/
structure Ini.Library.Keeps (lib : Library β) (Server : String → Prop) (Kept : File → Prop)
    (conf : Option (List β)) : Prop where
  kept : ∀ timesyncd, lib.loadFile conf = .ok timesyncd → Kept timesyncd
  servers : ∀ value, ntpValue lib conf = some value → IsServerList Server value

variable {Server : String → Prop} {Kept : File → Prop}

lemma isServerList_empty : IsServerList Server "" := ⟨[], by simp, rfl⟩

/-! ## What a call does to the list -/

/-- The content that an edit leaves, where the save succeeds. -/
def NTPEdit.saved (lib : Library β) (conf : Option (List β)) : NTPEdit → Option (List β)
  | .save timesyncd => conf.map fun _ => lib.writeTo timesyncd
  | _ => conf

lemma writeNTPServer_done (ntpServer : String) :
    (writeNTPServer lib .done conf ntpServer).2 = (editNTPServer lib conf ntpServer).saved lib conf := by
  rw [writeNTPServer]
  cases editNTPServer lib conf ntpServer <;> rfl

lemma joinServers_singleton (server : String) : joinServers [server] = server := by
  rw [joinServers, List.map_cons, List.map_nil, List.intercalate_singleton, String.ofList_toList]

lemma joinServers_cons {servers : List String} (h : servers ≠ []) (server : String) :
    joinServers (server :: servers)
      = String.ofList (server.toList ++ ' ' :: (joinServers servers).toList) := by
  have hmap : servers.map String.toList ≠ [] := by simpa using h
  rw [joinServers, List.map_cons, List.intercalate_cons_of_ne_nil hmap, joinServers,
    String.toList_ofList, List.append_assoc]
  rfl

/-- Servers that are joined may be joined with others as one. -/
lemma joinServers_cons_join {servers : List String} (h : servers ≠ []) (others : List String) :
    joinServers (joinServers servers :: others) = joinServers (servers ++ others) := by
  by_cases hothers : others = []
  · rw [hothers, joinServers_singleton, List.append_nil]
  · induction servers with
    | nil => exact absurd rfl h
    | cons server servers ih =>
        by_cases hservers : servers = []
        · rw [hservers, joinServers_singleton]
          rfl
        · have hne : servers ++ others ≠ [] := List.append_ne_nil_of_left_ne_nil hservers others
          rw [List.cons_append, joinServers_cons hne, ← ih hservers, joinServers_cons hothers,
            joinServers_cons hothers, joinServers_cons hservers]
          simp only [String.toList_ofList, List.append_assoc, List.cons_append]

/-- A list of servers is what it is split into. -/
lemma Ini.Library.Lawful.servers_of_list (hlib : lib.Lawful Server Kept) {value : String}
    (h : IsServerList Server value) :
    (∀ server ∈ lib.strings value, Server server) ∧ joinServers (lib.strings value) = value := by
  obtain ⟨servers, hservers, rfl⟩ := h
  rw [hlib.strings_join servers hservers]
  exact ⟨hservers, rfl⟩

/-- A server has a name. -/
lemma Ini.Library.Lawful.ne_empty (hlib : lib.Lawful Server Kept) {server : String}
    (h : Server server) : server ≠ "" := by
  rintro rfl
  have hnone := hlib.strings_join [] (by simp)
  have hone := hlib.strings_join [""] (List.forall_mem_singleton.mpr h)
  rw [joinServers_singleton] at hone
  exact absurd (hone.symm.trans hnone) (List.cons_ne_nil "" [])

/-- No servers are split into none. -/
lemma Ini.Library.Lawful.strings_eq_nil_iff (hlib : lib.Lawful Server Kept) {value : String}
    (h : IsServerList Server value) : lib.strings value = [] ↔ value = "" := by
  constructor
  · intro hnil
    rw [← (hlib.servers_of_list h).2, hnil]
    rfl
  · rintro rfl
    exact hlib.strings_join [] (by simp)

/-- The list that is read back when `sec` is saved as the `[Time]` section. -/
lemma ntpServers_saved {timesyncd : File} {sec : Section}
    (hload : lib.load (lib.writeTo (Members.insert "Time" sec timesyncd))
      = .ok (Members.insert "Time" sec timesyncd)) :
    let conf' := some (lib.writeTo (Members.insert "Time" sec timesyncd))
    HasTime lib conf' ∧ ntpValue lib conf' = Members.find "NTP" sec ∧
      ntpServers lib conf' = lib.servers (Members.find "NTP" sec) := by
  have hsec := Members.find_insert_self "Time" sec timesyncd
  have hloadFile : lib.loadFile (some (lib.writeTo (Members.insert "Time" sec timesyncd)))
      = .ok (Members.insert "Time" sec timesyncd) := hload
  have hvalue := ntpValue_of_load hloadFile hsec
  exact ⟨⟨_, sec, hload, hsec⟩, hvalue, congrArg lib.servers hvalue⟩

/-- Without a `[Time]` section a call fails. -/
lemma editNTPServer_of_not_hasTime (h : ¬ HasTime lib conf) (ntpServer : String) :
    ∃ err, editNTPServer lib conf ntpServer = .failed err := by
  rw [editNTPServer]
  rcases hload : lib.loadFile conf with err | timesyncd
  · exact ⟨err, rfl⟩
  · rcases hsec : Members.find "Time" timesyncd with _ | sec
    · exact ⟨lib.noSection, by simp only [hsec]⟩
    · exact absurd ⟨timesyncd, sec, hload, hsec⟩ h

/-- What is saved as the section lists what it should list. -/
lemma editTime_spec (hlib : lib.Lawful Server Kept) {sec : Section} {ntpServer : String}
    (hvalue : ∀ value, Members.find "NTP" sec = some value → IsServerList Server value)
    (hname : IsServerList Server ntpServer) :
    let after := lib.after (lib.servers (Members.find "NTP" sec)) ntpServer
    match editTime lib sec ntpServer with
    | none => after = lib.servers (Members.find "NTP" sec)
    | some sec' => (∀ server ∈ after, Server server) ∧
        (after = [] ∧ sec' = Members.erase "NTP" sec ∨
          sec' = Members.insert "NTP" (joinServers after) sec) := by
  obtain ⟨hservers, hjoin⟩ := hlib.servers_of_list hname
  have hstrings : ntpServer ≠ "" → lib.strings ntpServer ≠ [] :=
    fun hne hnil => hne ((hlib.strings_eq_nil_iff hname).mp hnil)
  rw [editTime]
  rcases hntp : Members.find "NTP" sec with _ | value
  · by_cases hempty : ntpServer = ""
    · simp only [hempty, if_true]
      rfl
    · simp only [hempty, if_false, Library.servers, Library.after, List.append_nil, hjoin,
        List.head?_nil, reduceCtorEq]
      exact ⟨hservers, .inr trivial⟩
  · obtain ⟨hlisted, -⟩ := hlib.servers_of_list (hvalue value hntp)
    by_cases hempty : ntpServer = ""
    · have htail : ∀ server ∈ (lib.strings value).tail, Server server :=
        fun server h => hlisted server (List.mem_of_mem_tail h)
      simp only [hempty, if_true, Library.servers, Library.after]
      by_cases hnil : (lib.strings value).tail = []
      · simp only [hnil, if_true]
        exact ⟨by simp, .inl ⟨trivial, trivial⟩⟩
      · simp only [hnil, if_false]
        exact ⟨htail, .inr trivial⟩
    · simp only [hempty, if_false, Library.servers, Library.after]
      by_cases hhead : (lib.strings value).head? = some ntpServer
      · simp only [hhead, if_true]
      · have hpush : joinServers (ntpServer :: lib.strings value)
            = joinServers (lib.strings ntpServer ++ lib.strings value) := by
          rw [← joinServers_cons_join (hstrings hempty), hjoin]
        simp only [hhead, if_false, hpush]
        exact ⟨List.forall_mem_append.mpr ⟨hservers, hlisted⟩, .inr trivial⟩

lemma editTime_eq_none (sec : Section) (ntpServer : String) :
    editTime lib sec ntpServer = none ↔
      if ntpServer = "" then Members.find "NTP" sec = none
      else (lib.servers (Members.find "NTP" sec)).head? = some ntpServer := by
  rw [editTime]
  rcases Members.find "NTP" sec with _ | value
  · by_cases hempty : ntpServer = "" <;> simp [hempty, Library.servers]
  · by_cases hempty : ntpServer = ""
    · by_cases htail : (lib.strings value).tail = [] <;> simp [hempty, htail]
    · by_cases hhead : (lib.strings value).head? = some ntpServer <;>
        simp [hempty, hhead, Library.servers]

lemma nothingToWrite_iff {timesyncd : File} {sec : Section} {ntpServer : String}
    (hload : lib.loadFile conf = .ok timesyncd) (hsec : Members.find "Time" timesyncd = some sec) :
    NothingToWrite lib conf ntpServer ↔ editTime lib sec ntpServer = none := by
  have hntp := ntpValue_of_load hload hsec
  rw [editTime_eq_none, NothingToWrite, ntpServers, hntp]

/-- What is saved can be read back, and lists what it should list. -/
lemma reload_editTime (hlib : lib.Lawful Server Kept) {timesyncd : File} {sec sec' : Section}
    {ntpServer : String} (hkept : Kept timesyncd) (hsec : Members.find "Time" timesyncd = some sec)
    (hvalue : ∀ value, Members.find "NTP" sec = some value → IsServerList Server value)
    (hname : IsServerList Server ntpServer) (hedit : editTime lib sec ntpServer = some sec') :
    lib.Reloads Kept (Members.insert "Time" sec' timesyncd) ∧
      (∀ value, Members.find "NTP" sec' = some value → IsServerList Server value) ∧
      lib.servers (Members.find "NTP" sec')
        = lib.after (lib.servers (Members.find "NTP" sec)) ntpServer := by
  have hspec := editTime_spec hlib hvalue hname
  rw [hedit] at hspec
  obtain ⟨hservers, ⟨hafter, rfl⟩ | rfl⟩ := hspec
  · rw [hafter, Members.find_erase_self]
    exact ⟨hlib.reload_erase timesyncd sec hkept hsec, by simp, rfl⟩
  · rw [Members.find_insert_self]
    refine ⟨hlib.reload_insert timesyncd sec _ hkept hsec hservers, ?_, ?_⟩
    · rintro _ ⟨⟩
      exact ⟨_, hservers, rfl⟩
    · exact hlib.strings_join _ hservers

/-- **What a call comes to.**  There is nothing to write, and the list is as it should be; or what
is saved has the list that it should have. -/
theorem editNTPServer_spec (hlib : lib.Lawful Server Kept) (hkeeps : lib.Keeps Server Kept conf)
    (h : HasTime lib conf) {ntpServer : String} (hname : IsServerList Server ntpServer) :
    (NothingToWrite lib conf ntpServer ∧ editNTPServer lib conf ntpServer = .unchanged ∧
        lib.after (ntpServers lib conf) ntpServer = ntpServers lib conf) ∨
      (¬ NothingToWrite lib conf ntpServer ∧ ∃ timesyncd,
        editNTPServer lib conf ntpServer = .save timesyncd ∧
        HasTime lib (some (lib.writeTo timesyncd)) ∧
        lib.Keeps Server Kept (some (lib.writeTo timesyncd)) ∧
        ntpServers lib (some (lib.writeTo timesyncd))
          = lib.after (ntpServers lib conf) ntpServer) := by
  obtain ⟨timesyncd, sec, hload, hsec⟩ := h
  have hntp := ntpValue_of_load hload hsec
  have hservers : ntpServers lib conf = lib.servers (Members.find "NTP" sec) :=
    congrArg lib.servers hntp
  have hvalue : ∀ value, Members.find "NTP" sec = some value → IsServerList Server value :=
    fun value h => hkeeps.servers value (hntp.trans h)
  rw [nothingToWrite_iff hload hsec, hservers, editNTPServer, hload]
  simp only [hsec]
  rcases hedit : editTime lib sec ntpServer with _ | sec'
  · have hspec := editTime_spec hlib hvalue hname
    rw [hedit] at hspec
    exact .inl ⟨rfl, rfl, hspec⟩
  · obtain ⟨hreload, hvalue', hafter⟩ :=
      reload_editTime hlib (hkeeps.kept timesyncd hload) hsec hvalue hname hedit
    obtain ⟨htime, hntp', hsaved⟩ := ntpServers_saved hreload.1
    refine .inr ⟨Option.some_ne_none _, _, rfl, htime, ⟨?_, ?_⟩, hsaved.trans hafter⟩
    · intro timesyncd' hload'
      rw [Library.loadFile, hreload.1] at hload'
      cases hload'
      exact hreload.2
    · exact fun value h => hvalue' value (hntp'.symm.trans h)

/-- A call with nothing to write saves nothing. -/
lemma editNTPServer_of_nothing {ntpServer : String} (h : HasTime lib conf)
    (hnothing : NothingToWrite lib conf ntpServer) :
    editNTPServer lib conf ntpServer = .unchanged := by
  obtain ⟨timesyncd, sec, hload, hsec⟩ := h
  rw [editNTPServer, hload]
  simp only [hsec, (nothingToWrite_iff hload hsec).mp hnothing]

lemma HasTime.saved_save (h : HasTime lib conf) (timesyncd : File) :
    (NTPEdit.save timesyncd).saved lib conf = some (lib.writeTo timesyncd) := by
  obtain ⟨_, _, hload, -⟩ := h
  cases conf with
  | none => cases hload
  | some content => rfl

/-- The list after a call whose save succeeds. -/
theorem ntpServers_call (hlib : lib.Lawful Server Kept) (hkeeps : lib.Keeps Server Kept conf)
    (h : HasTime lib conf) {ntpServer : String} (hname : IsServerList Server ntpServer) :
    HasTime lib (writeNTPServer lib .done conf ntpServer).2 ∧
      lib.Keeps Server Kept (writeNTPServer lib .done conf ntpServer).2 ∧
      ntpServers lib (writeNTPServer lib .done conf ntpServer).2
        = lib.after (ntpServers lib conf) ntpServer := by
  rw [writeNTPServer_done]
  rcases editNTPServer_spec hlib hkeeps h hname with
    ⟨-, hedit, hafter⟩ | ⟨-, timesyncd, hedit, htime, hkeeps', hafter⟩
  · rw [hedit]
    exact ⟨h, hkeeps, hafter.symm⟩
  · rw [hedit, h.saved_save]
    exact ⟨htime, hkeeps', hafter⟩

/-! ## Names -/

/-- White space, as `unicode.IsSpace` has it. -/
def isWhiteSpace (c : Char) : Bool :=
  (9 ≤ c.toNat && c.toNat ≤ 13) || c.toNat == 0x20 || c.toNat == 0x85 || c.toNat == 0xA0 ||
    c.toNat == 0x1680 || (0x2000 ≤ c.toNat && c.toNat ≤ 0x200A) || c.toNat == 0x2028 ||
    c.toNat == 0x2029 || c.toNat == 0x202F || c.toNat == 0x205F || c.toNat == 0x3000

/-- A name, with no white space in it. -/
def IsName (server : String) : Prop := server ≠ "" ∧ ∀ c ∈ server.toList, isWhiteSpace c = false

instance (server : String) : Decidable (IsName server) :=
  haveI := List.decidableBAll (fun c => isWhiteSpace c = false) server.toList
  instDecidableAnd

/-! ## A library -/

namespace Ini

/-- `Key.Strings`, of a value without other white space than blanks. -/
def splitStrings (value : String) : List String :=
  if value = "" then [] else (value.toList.splitOn ' ').map String.ofList

/-- The section `[Time]`, and the key `NTP` up to its value. -/
def timeText : List Char := "[Time]\nNTP = ".toList

/-- The text of a file with the section `[Time]` alone, and in it at most the key `NTP`. -/
def writeTime : Option String → List Char
  | none => timeText.take 7
  | some value => timeText ++ value.toList

/-- The file with the section `[Time]` alone, and in it at most the key `NTP`. -/
def timeFile (ntp : Option String) : File := [("Time", (ntp.map fun value => ("NTP", value)).toList)]

/-- A library for such files. -/
def timeLibrary : Library Char where
  load content :=
    if content = timeText.take 7 then .ok (timeFile none)
    else if content.take 13 = timeText then
      .ok (timeFile (some (String.ofList (content.drop 13))))
    else .error "unclosed section"
  noFile := "open /etc/systemd/timesyncd.conf: no such file or directory"
  noSection := "error when getting section: section 'Time' not exists"
  writeTo timesyncd := writeTime ((Members.find "Time" timesyncd).bind (Members.find "NTP"))
  strings := splitStrings

lemma length_timeText : timeText.length = 13 := by decide

/-- Such a file. -/
def IsTimeFile (timesyncd : File) : Prop := ∃ ntp, timesyncd = timeFile ntp

lemma load_writeTime (ntp : Option String) :
    timeLibrary.load (writeTime ntp) = .ok (timeFile ntp) := by
  cases ntp with
  | none => simp only [timeLibrary, writeTime, if_true]
  | some value =>
      have hne : timeText ++ value.toList ≠ timeText.take 7 := by
        intro h
        have hlen := congrArg List.length h
        rw [List.length_append, List.length_take, length_timeText] at hlen
        omega
      simp only [timeLibrary, writeTime, if_neg hne, List.take_left' length_timeText, if_true,
        List.drop_left' length_timeText, String.ofList_toList]

lemma splitStrings_of_ne {value : String} (h : value ≠ "") :
    splitStrings value = (value.toList.splitOn ' ').map String.ofList := if_neg h

lemma splitStrings_ne_nil {value : String} (h : value ≠ "") : splitStrings value ≠ [] := by
  rw [splitStrings_of_ne h]
  simp

/-- Names that are joined are split again. -/
lemma splitStrings_join {servers : List String} (h : ∀ server ∈ servers, IsName server) :
    splitStrings (joinServers servers) = servers := by
  rcases servers with _ | ⟨server, rest⟩
  · rfl
  · have hne : joinServers (server :: rest) ≠ "" := by
      have hserver := (h server List.mem_cons_self).1
      by_cases hrest : rest = []
      · rw [hrest, joinServers_singleton]
        exact hserver
      · rw [joinServers_cons hrest]
        simp
    have hblank : ∀ name ∈ (server :: rest).map String.toList, ' ' ∉ name := by
      intro name hname hmem
      obtain ⟨server', hserver', rfl⟩ := List.mem_map.mp hname
      exact Bool.noConfusion ((h server' hserver').2 ' ' hmem)
    rw [splitStrings_of_ne hne, joinServers, String.toList_ofList,
      List.splitOn_intercalate ' ' hblank (List.cons_ne_nil _ _), List.map_map]
    exact (List.map_congr_left fun server _ => String.ofList_toList).trans (List.map_id _)

lemma writeTo_timeFile (ntp : Option String) :
    timeLibrary.writeTo (timeFile ntp) = writeTime ntp := by
  cases ntp <;> rfl

lemma reloads_timeFile (ntp : Option String) : timeLibrary.Reloads IsTimeFile (timeFile ntp) := by
  rw [Library.Reloads, writeTo_timeFile]
  exact ⟨load_writeTime ntp, ntp, rfl⟩

theorem timeLibrary_lawful : timeLibrary.Lawful IsName IsTimeFile where
  reload_insert := by
    rintro _ sec servers ⟨ntp, rfl⟩ ⟨⟩ -
    have hfile : Members.insert "Time" (Members.insert "NTP" (joinServers servers)
        (ntp.map fun value => ("NTP", value)).toList) (timeFile ntp)
          = timeFile (some (joinServers servers)) := by
      cases ntp <;> rfl
    rw [hfile]
    exact reloads_timeFile _
  reload_erase := by
    rintro _ sec ⟨ntp, rfl⟩ ⟨⟩
    have hfile : Members.insert "Time" (Members.erase "NTP"
        (ntp.map fun value => ("NTP", value)).toList) (timeFile ntp) = timeFile none := by
      cases ntp <;> rfl
    rw [hfile]
    exact reloads_timeFile none
  strings_join := fun _ h => splitStrings_join h

/-- A file that lists names. -/
lemma timeLibrary_keeps {servers : List String} (h : ∀ server ∈ servers, IsName server) :
    timeLibrary.Keeps IsName IsTimeFile (some (writeTime (some (joinServers servers)))) := by
  have hload : timeLibrary.loadFile (some (writeTime (some (joinServers servers)))) = _ :=
    load_writeTime (some (joinServers servers))
  refine ⟨?_, ?_⟩
  · intro timesyncd hload'
    rw [hload] at hload'
    cases hload'
    exact ⟨_, rfl⟩
  · intro value hvalue
    rw [ntpValue_of_load hload rfl] at hvalue
    cases hvalue
    exact ⟨servers, h, rfl⟩

end Ini

/-! ## The copy of the reader -/

/-- `readNTPServer` of `snapd_client.go`, `none` where it panics: it takes the first server without
asking whether there is one. -/
def Snapdclient.readNTPServer (lib : Library β) (conf : Option (List β)) : Option String :=
  match lib.loadFile conf with
  | .error _ => some ""
  | .ok timesyncd =>
      match Members.find "Time" timesyncd with
      | none => some ""
      | some sec =>
          match Members.find "NTP" sec with
          | none => some ""
          | some value => (lib.strings value)[0]?

/-- The two readers agree unless there is a value without servers. -/
lemma readNTPServer_agree_iff_strings :
    Snapdclient.readNTPServer lib conf = some (readNTPServer lib conf) ↔
      ∀ value, ntpValue lib conf = some value → lib.strings value ≠ [] := by
  rw [Snapdclient.readNTPServer, readNTPServer, ntpValue]
  rcases lib.loadFile conf with err | timesyncd
  · exact iff_of_true rfl fun _ h => absurd h (Option.some_ne_none _).symm
  · dsimp only
    rcases Members.find "Time" timesyncd with _ | sec
    · exact iff_of_true rfl fun _ h => absurd h (Option.some_ne_none _).symm
    · dsimp only [Option.bind_some]
      rcases Members.find "NTP" sec with _ | value
      · exact iff_of_true rfl fun _ h => absurd h (Option.some_ne_none _).symm
      · dsimp only
        rcases hstrings : lib.strings value with _ | ⟨server, rest⟩
        · exact iff_of_false (Option.some_ne_none _).symm fun h => h value rfl hstrings
        · refine iff_of_true rfl fun value' hvalue => ?_
          cases hvalue
          rw [hstrings]
          exact List.cons_ne_nil server rest

/-- **Two readers.**  The copy returns what the other one does, unless the key is there with an empty
value. -/
theorem readNTPServer_agree_iff (hempty : lib.strings "" = [])
    (hstrings : ∀ value, value ≠ "" → lib.strings value ≠ []) :
    Snapdclient.readNTPServer lib conf = some (readNTPServer lib conf) ↔
      ntpValue lib conf ≠ some "" := by
  rw [readNTPServer_agree_iff_strings]
  constructor
  · exact fun h hvalue => h "" hvalue hempty
  · intro hne value hvalue
    refine hstrings value ?_
    rintro rfl
    exact hne hvalue

/-- Two servers, and the first one is what both readers return. -/
theorem readNTPServer_agree_two :
    let conf := some (writeTime (some "time.example.com ntp.ubuntu.com"))
    Snapdclient.readNTPServer timeLibrary conf = some (readNTPServer timeLibrary conf) := by
  have hload : timeLibrary.loadFile (some (writeTime (some "time.example.com ntp.ubuntu.com")))
      = .ok (timeFile (some "time.example.com ntp.ubuntu.com")) := load_writeTime _
  have hstrings : ∀ value, value ≠ "" → timeLibrary.strings value ≠ [] := fun _ => splitStrings_ne_nil
  refine (readNTPServer_agree_iff rfl hstrings).mpr ?_
  rw [ntpValue_of_load hload rfl]
  exact fun h => absurd (Option.some.inj h) (by decide)

/-- The key is there with an empty value: one reader panics, the other one returns the empty name. -/
theorem readNTPServer_empty_value :
    let conf := some (writeTime (some ""))
    Snapdclient.readNTPServer timeLibrary conf = none ∧ readNTPServer timeLibrary conf = "" :=
  ⟨rfl, rfl⟩

end Snapweb
