import Mathlib.Data.Finmap
import Mathlib.Tactic.Lemma

/-!
# Files that are written whole

A file system as the program sees it: paths with files and directories.  `ioutil.WriteFile` creates
or truncates a file and writes it; it may be refused at the start, and it may fail after some of the
bytes.

* `writeFile` — the files after a call, given how it ended.
* `has_writeFile` — writing never makes a path disappear.
* `writeAt` — one write of several, at the writer's own offset; a writer that finds what it has
  written so far goes on with it (`writeAt_take`), whatever else the file held.
-/

/-- What is at a path. -/
inductive FileNode
  | directory
  | file (content : List UInt8)
  deriving DecidableEq, Repr

/-- The files and directories, by path. -/
abbrev Files := Finmap fun _ : String => FileNode

/-- How a call of `ioutil.WriteFile` ends: all is written, the file cannot be opened, or the write
fails after `written` bytes. -/
inductive WriteResult
  | done
  | refused
  | short (written : ℕ)
  deriving DecidableEq, Repr

/-- What a write leaves in its file, if the file is opened. -/
def WriteResult.leaves (content : List UInt8) : WriteResult → Option (List UInt8)
  | .done => some content
  | .refused => none
  | .short written => some (content.take written)

namespace Files

/-- The path exists (`os.Stat` succeeds). -/
def Has (fs : Files) (path : String) : Prop := path ∈ fs

instance (fs : Files) (path : String) : Decidable (fs.Has path) :=
  inferInstanceAs (Decidable (path ∈ fs))

/-- The files after `ioutil.WriteFile path content`. -/
def writeFile (fs : Files) (path : String) (content : List UInt8) : WriteResult → Files
  | .done => fs.insert path (.file content)
  | .refused => fs
  | .short written => fs.insert path (.file (content.take written))

lemma has_writeFile {fs : Files} {path p : String} {content : List UInt8} {r : WriteResult}
    (h : fs.Has p) : (fs.writeFile path content r).Has p := by
  cases r with
  | done => exact Finmap.mem_insert.mpr (.inr h)
  | refused => exact h
  | short written => exact Finmap.mem_insert.mpr (.inr h)

lemma has_writeFile_self {fs : Files} {path : String} {content : List UInt8} {r : WriteResult}
    (h : r ≠ .refused) : (fs.writeFile path content r).Has path := by
  cases r with
  | done => exact Finmap.mem_insert.mpr (.inl rfl)
  | refused => exact absurd rfl h
  | short written => exact Finmap.mem_insert.mpr (.inl rfl)

lemma lookup_writeFile_self (fs : Files) (path : String) (content : List UInt8) (r : WriteResult) :
    (fs.writeFile path content r).lookup path
      = ((r.leaves content).map .file).or (fs.lookup path) := by
  cases r with
  | done => exact Finmap.lookup_insert fs
  | refused => rfl
  | short written => exact Finmap.lookup_insert fs

lemma lookup_writeFile_of_ne {fs : Files} {path p : String} (h : p ≠ path) (content : List UInt8)
    (r : WriteResult) : (fs.writeFile path content r).lookup p = fs.lookup p := by
  cases r with
  | done => exact Finmap.lookup_insert_of_ne fs h
  | refused => rfl
  | short written => exact Finmap.lookup_insert_of_ne fs h

/-- A path exists if there is something. -/
lemma has_iff_lookup {fs : Files} {path : String} : fs.Has path ↔ (fs.lookup path).isSome = true :=
  Finmap.lookup_isSome.symm

/-! ## Writing in parts -/

section
variable {α : Type*}

/-- The content of a file after a write at an offset; a gap is filled. -/
def writeAt (pad : α) (content : List α) (offset : ℕ) (chunk : List α) : List α :=
  (content ++ List.replicate (offset - content.length) pad).take offset ++ chunk ++
    content.drop (offset + chunk.length)

/-- A writer that finds what it has written so far leaves what it has written then. -/
lemma writeAt_take (pad : α) {text : List α} {offset k : ℕ} (h : offset + k ≤ text.length) :
    writeAt pad (text.take offset) offset ((text.drop offset).take k) = text.take (offset + k) := by
  have hlen : (text.take offset).length = offset := by
    rw [List.length_take]
    omega
  have hdrop : (text.take offset).drop (offset + ((text.drop offset).take k).length) = [] := by
    rw [List.drop_eq_nil_iff]
    omega
  rw [writeAt, hdrop, hlen, Nat.sub_self, List.replicate_zero, List.append_nil, List.append_nil,
    List.take_take, Nat.min_self, List.take_add]

/-- A writer that writes everything at once leaves what it writes, if there was no more before. -/
lemma writeAt_whole (pad : α) {content text : List α} (h : content.length ≤ text.length) :
    writeAt pad content 0 text = text := by
  have hdrop : content.drop (0 + text.length) = [] := by
    rw [List.drop_eq_nil_iff]
    omega
  rw [writeAt, hdrop, List.take_zero, List.nil_append, List.append_nil]

end

end Files
