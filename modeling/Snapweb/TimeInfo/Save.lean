import Snapweb.Core.Bufio
import Snapweb.TimeInfo.Timesyncd

/-!
# Saving the NTP servers

`saveTimeSyncd` truncates `timesyncd.conf` and writes it anew through a buffered writer, whose last
flush is not looked at.  What can go wrong is the opening of the file, and any write to it.

* `saveTimeSyncd_eq` — how a save ends, from how much of the configuration gets through.
* `writeNTPServer_atomic_iff` — when a call leaves the new configuration or reports an error and
  leaves the old one.
* `writeNTPServer_flush_fails` — a flush that fails is not reported, and the file is cut short.
-/

namespace Snapweb

open Ini

variable {β : Type*} {lib : Library β}

/-- `File.WriteTo` writes the content in parts. -/
structure Ini.Library.Writes (lib : Library β) where
  chunks : File → List (List β)
  flatten_chunks : ∀ timesyncd, (chunks timesyncd).flatten = lib.writeTo timesyncd

/-- What happens to the file while it is saved: it cannot be opened or truncated, or else it takes
`limit` bytes and then fails with `err`. -/
structure SaveIO where
  refused : Option Error
  limit : ℕ
  err : Error

/-- `bufio.NewWriter` has a buffer of this size. -/
def defaultBufSize : ℕ := 4096

/-- How much of a configuration waits in the buffer when all of it has been written there. -/
def Ini.Library.Writes.held (writes : lib.Writes) (confFile : File) : ℕ :=
  Bufio.held defaultBufSize ((writes.chunks confFile).map List.length)

/-- `saveTimeSyncd`: its error, and the file it leaves.  It does not create the file. -/
def saveTimeSyncd (writes : lib.Writes) (io : SaveIO) (conf : Option (List β)) (confFile : File) :
    Option Error × Option (List β) :=
  match conf, io.refused with
  | none, _ => (some lib.noFile, none)
  | some old, some err => (some err, some old)
  | some _, none =>
      let w := (Bufio.newWriterSize defaultBufSize ⟨[], io.limit, io.err⟩).writeAll
        (writes.chunks confFile)
      match w.err with
      | some err => (some err, some w.wr.written)
      | none => (none, some w.flush.wr.written)

/-- How the save ends. -/
def SaveIO.result (io : SaveIO) (writes : lib.Writes) (confFile : File) : SaveResult :=
  match io.refused with
  | some err => .refused err
  | none =>
      if (lib.writeTo confFile).length ≤ io.limit then .done
      else if (lib.writeTo confFile).length ≤ io.limit + writes.held confFile then
        .unflushed io.limit
      else .short io.limit io.err

/-- The buffer is flushed at the end, so the save ends as the file lets it. -/
lemma saveTimeSyncd_eq (writes : lib.Writes) (io : SaveIO) (old : List β) (confFile : File) :
    saveTimeSyncd writes io (some old) confFile
      = ((io.result writes confFile).error,
        some ((io.result writes confFile).content old (lib.writeTo confFile))) := by
  obtain ⟨hnone, hfailed, hflush⟩ :=
    Bufio.Writer.writeAll_newWriterSize defaultBufSize io.limit io.err (writes.chunks confFile)
  rw [writes.flatten_chunks] at hnone hfailed hflush
  rw [saveTimeSyncd.eq_def, SaveIO.result]
  rcases hrefused : io.refused with _ | err
  · dsimp only
    by_cases herr : ((Bufio.newWriterSize defaultBufSize ⟨[], io.limit, io.err⟩).writeAll
        (writes.chunks confFile)).err = none
    · rw [herr]
      dsimp only
      rw [hflush]
      split_ifs with hall hheld
      · rw [List.take_of_length_le hall]
        rfl
      · rfl
      · exact absurd (hnone.mp herr) hheld
    · have hheld : ¬ (lib.writeTo confFile).length ≤ io.limit + writes.held confFile :=
        fun hle => herr (hnone.mpr hle)
      have hall : ¬ (lib.writeTo confFile).length ≤ io.limit := by omega
      obtain ⟨hsome, hwritten⟩ := hfailed herr
      rw [hsome, if_neg hall, if_neg hheld]
      dsimp only
      rw [hwritten]
      rfl
  · rfl

/-- `writeNTPServer`, with its save: its error, and the file it leaves. -/
def SaveIO.writeNTPServer (io : SaveIO) (writes : lib.Writes) (conf : Option (List β))
    (ntpServer : String) : Option Error × Option (List β) :=
  match editNTPServer lib conf ntpServer with
  | .failed err => (some err, conf)
  | .unchanged => (none, conf)
  | .save timesyncd => saveTimeSyncd writes io conf timesyncd

/-- A call is the one whose save ends as the file lets it. -/
lemma writeNTPServer_save {writes : lib.Writes} {io : SaveIO} {conf : Option (List β)}
    {ntpServer : String} {timesyncd : File}
    (hedit : editNTPServer lib conf ntpServer = .save timesyncd) :
    io.writeNTPServer writes conf ntpServer
      = writeNTPServer lib (io.result writes timesyncd) conf ntpServer := by
  rw [writeNTPServer, SaveIO.writeNTPServer, hedit]
  cases conf with
  | none =>
      rw [editNTPServer] at hedit
      cases hedit
  | some old => exact saveTimeSyncd_eq writes io old timesyncd

/-! ## All or nothing -/

/-- A call leaves the complete new configuration, or it reports an error and leaves the old one. -/
def Atomic (lib : Library β) (conf : Option (List β)) (ntpServer : String)
    (ret : Option Error × Option (List β)) : Prop :=
  (ret.1 = none → ret.2 = (editNTPServer lib conf ntpServer).saved lib conf) ∧
    (ret.1 ≠ none → ret.2 = conf)

/-- A save is in order: the file is not opened, or it takes all of the new configuration; or else
it fails while there is still something to write to it, and what it has taken by then is what it held
before. -/
def SaveIO.InOrder (io : SaveIO) (writes : lib.Writes) (conf : Option (List β))
    (timesyncd : File) : Prop :=
  io.refused ≠ none ∨ (lib.writeTo timesyncd).length ≤ io.limit ∨
    (io.limit + writes.held timesyncd < (lib.writeTo timesyncd).length ∧
      conf = some ((lib.writeTo timesyncd).take io.limit))

lemma take_ne_self {l : List β} {n : ℕ} (h : ¬ l.length ≤ n) : l.take n ≠ l := fun heq =>
  h (by
    have hlen := congrArg List.length heq
    rw [List.length_take] at hlen
    omega)

/-- A save, by how it ends. -/
lemma atomic_save_iff {writes : lib.Writes} {io : SaveIO} {old : List β} {timesyncd : File} :
    let result := io.result writes timesyncd
    let content := result.content old (lib.writeTo timesyncd)
    ((result.error = none → content = lib.writeTo timesyncd) ∧ (result.error ≠ none → content = old))
      ↔ io.InOrder writes (some old) timesyncd := by
  unfold SaveIO.InOrder SaveIO.result
  rcases hrefused : io.refused with _ | err
  · dsimp only
    by_cases hall : (lib.writeTo timesyncd).length ≤ io.limit
    · rw [if_pos hall]
      exact iff_of_true ⟨fun _ => rfl, fun hne => absurd rfl hne⟩ (.inr (.inl hall))
    · by_cases hheld : (lib.writeTo timesyncd).length ≤ io.limit + writes.held timesyncd
      · rw [if_neg hall, if_pos hheld]
        refine iff_of_false (fun h => take_ne_self hall (h.1 rfl)) ?_
        rintro (hne | hle | ⟨hlt, -⟩)
        · exact hne rfl
        · exact hall hle
        · omega
      · rw [if_neg hall, if_neg hheld]
        refine ⟨fun h => .inr (.inr ⟨by omega, ?_⟩), fun h => ⟨fun herr => ?_, fun _ => ?_⟩⟩
        · exact congrArg some (h.2 (Option.some_ne_none _)).symm
        · cases herr
        · rcases h with hne | hle | ⟨-, hold⟩
          · exact absurd rfl hne
          · exact absurd hle hall
          · exact (Option.some.inj hold).symm
  · exact iff_of_true ⟨fun herr => absurd herr (Option.some_ne_none err), fun _ => rfl⟩
      (.inl (Option.some_ne_none err))

/-- **All or nothing.**  A call leaves the new configuration, or reports an error and leaves the old
one, exactly where a save that it comes to is in order. -/
theorem writeNTPServer_atomic_iff (writes : lib.Writes) (io : SaveIO) (conf : Option (List β))
    (ntpServer : String) :
    Atomic lib conf ntpServer (io.writeNTPServer writes conf ntpServer) ↔
      ∀ timesyncd, editNTPServer lib conf ntpServer = .save timesyncd →
        io.InOrder writes conf timesyncd := by
  rcases hedit : editNTPServer lib conf ntpServer with err | _ | timesyncd
  · rw [Atomic, SaveIO.writeNTPServer, hedit]
    refine iff_of_true ⟨fun herr => absurd herr (Option.some_ne_none err), fun _ => rfl⟩ ?_
    exact fun _ h => NTPEdit.noConfusion h
  · rw [Atomic, SaveIO.writeNTPServer, hedit]
    refine iff_of_true ⟨fun _ => rfl, fun hne => absurd rfl hne⟩ ?_
    exact fun _ h => NTPEdit.noConfusion h
  · cases conf with
    | none =>
        rw [editNTPServer] at hedit
        cases hedit
    | some old =>
        have hsave : (∀ confFile, NTPEdit.save timesyncd = .save confFile →
            io.InOrder writes (some old) confFile) ↔ io.InOrder writes (some old) timesyncd :=
          ⟨fun h => h timesyncd rfl, fun h confFile heq => NTPEdit.save.inj heq ▸ h⟩
        rw [hsave, Atomic, writeNTPServer_save hedit, writeNTPServer, hedit]
        simpa only [NTPEdit.saved, Option.map_some, Option.some.injEq] using atomic_save_iff

/-! ## A flush that fails -/

/-- The content in one part. -/
def timeLibraryWrites : timeLibrary.Writes where
  chunks timesyncd := [timeLibrary.writeTo timesyncd]
  flatten_chunks _ := List.flatten_singleton

/-- Where the disk is full, the file is cut short and no error is reported. -/
theorem writeNTPServer_flush_fails :
    let io : SaveIO := ⟨none, 3, "no space left on device"⟩
    let conf := some (writeTime (some "ntp.ubuntu.com"))
    let ret := io.writeNTPServer timeLibraryWrites conf "time.example.com"
    ret = (none, some ['[', 'T', 'i']) ∧ ¬ Atomic timeLibrary conf "time.example.com" ret := by
  intro io conf ret
  have hret : ret = (none, some ['[', 'T', 'i']) := rfl
  have hsaved : (editNTPServer timeLibrary conf "time.example.com").saved timeLibrary conf
      = some (writeTime (some "time.example.com ntp.ubuntu.com")) := rfl
  refine ⟨hret, fun h => ?_⟩
  have hcontent := h.1 (congrArg Prod.fst hret)
  rw [hret, hsaved] at hcontent
  exact absurd hcontent (by decide)
end Snapweb
