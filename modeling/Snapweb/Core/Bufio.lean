import Mathlib.Data.Nat.Notation
import Mathlib.Tactic.Lemma
import Mathlib.Tactic.SplitIfs

/-!
# Buffered writers

`bufio.Writer` over a file that takes so many bytes and then fails.  Bytes wait in the buffer until
it is full or is flushed; the first error is kept, and nothing is written after it.

How many bytes wait is known from the lengths of the writes (`held`), and what the writer has come
to is known from the bytes that it was given (`Writer.Took`).

* `Writer.took_write`, `Writer.took_writeAll` — one write, and any number of them.
* `Writer.Took.flush` — after a flush nothing waits.
* `Writer.writeAll_newWriterSize` — when the writes report an error, and what is in the file.
-/

namespace Bufio

variable {β ε : Type*}

/-- A file that takes `limit` bytes, and then fails with `error`. -/
structure Sink (β ε : Type*) where
  written : List β
  limit : ℕ
  error : ε

/-- How many bytes the file still takes. -/
def Sink.room (f : Sink β ε) : ℕ := f.limit - f.written.length

/-- `File.Write`: what is in the file, whether all of `p` is or not. -/
def Sink.write (f : Sink β ε) (p : List β) : Sink β ε :=
  { f with written := f.written ++ p.take f.room }

/-- `File.Write`: the error. -/
def Sink.writeError (f : Sink β ε) (p : List β) : Option ε :=
  if p.length ≤ f.room then none else some f.error

/-- `bufio.Writer`. -/
structure Writer (β ε : Type*) where
  size : ℕ
  buf : List β
  err : Option ε
  wr : Sink β ε

/-- `NewWriterSize`. -/
def newWriterSize (size : ℕ) (f : Sink β ε) : Writer β ε := ⟨size, [], none, f⟩

namespace Writer

/-- `Flush`.  What it returns is `err` of the writer that it leaves. -/
def flush (w : Writer β ε) : Writer β ε :=
  if w.err.isSome then w
  else { w with
    buf := w.buf.drop w.wr.room
    err := w.wr.writeError w.buf
    wr := w.wr.write w.buf }

/-- `Write`, where the buffer is empty: what does not fit into it goes to the file at once. -/
def writeEmpty (w : Writer β ε) (p : List β) : Writer β ε :=
  if p.length ≤ w.size then { w with buf := p }
  else { w with err := w.wr.writeError p, wr := w.wr.write p }

/-- `Write`.  A buffer with something in it is filled and flushed before the rest is looked at.  What
it returns is `err` of the writer that it leaves. -/
def write (w : Writer β ε) (p : List β) : Writer β ε :=
  if w.err.isSome then w
  else if w.buf.length + p.length ≤ w.size then { w with buf := w.buf ++ p }
  else if w.buf = [] then w.writeEmpty p
  else
    let room := w.size - w.buf.length
    let w' := { w with buf := w.buf ++ p.take room }.flush
    if w'.err.isSome then w' else w'.writeEmpty (p.drop room)

/-- Writes one after the other.  One that stops at the first error leaves the same, since there is
nothing written after it. -/
def writeAll (w : Writer β ε) (chunks : List (List β)) : Writer β ε := chunks.foldl write w

end Writer

/-- How many bytes wait in the buffer after a write of `len` bytes, where `n` waited before. -/
def heldAfter (size n len : ℕ) : ℕ :=
  if n + len ≤ size then n + len
  else if n = 0 then 0
  else if n + len ≤ size + size then n + len - size
  else 0

/-- How many bytes wait in the buffer after writes of these lengths. -/
def held (size : ℕ) (lengths : List ℕ) : ℕ := lengths.foldl (heldAfter size) 0

lemma heldAfter_le (size n len : ℕ) : heldAfter size n len ≤ n + len := by
  rw [heldAfter]
  split_ifs <;> omega

namespace Sink

variable {f : Sink β ε} {p : List β}

lemma written_write (h : f.written.length ≤ f.limit) :
    (f.write p).written = (f.written ++ p).take f.limit := by
  rw [write, room, List.take_append, List.take_of_length_le h]

lemma writeError_eq_none (h : f.written.length ≤ f.limit) :
    f.writeError p = none ↔ (f.written ++ p).length ≤ f.limit := by
  have hroom : p.length ≤ f.room ↔ (f.written ++ p).length ≤ f.limit := by
    rw [room, List.length_append]
    omega
  rw [writeError, ← hroom]
  by_cases hp : p.length ≤ f.room
  · rw [if_pos hp]
    exact iff_of_true rfl hp
  · rw [if_neg hp]
    exact iff_of_false (Option.some_ne_none _) hp

lemma writeError_eq_error (h : f.writeError p ≠ none) : f.writeError p = some f.error := by
  rw [writeError] at h ⊢
  split_ifs at h ⊢
  · exact absurd rfl h
  · rfl

end Sink

namespace Writer

/-- What the writer has come to with the bytes `given`, of which the last `waiting` would wait: they
do, and the others are in the file; or the file has failed at one of the others. -/
inductive Took (w : Writer β ε) (given : List β) (waiting : ℕ) : Prop
  | waits (herr : w.err = none) (hgiven : w.wr.written ++ w.buf = given)
      (hbuf : w.buf.length = waiting) (hsize : waiting ≤ w.size)
      (hlimit : w.wr.written.length ≤ w.wr.limit)
  | failed (herr : w.err = some w.wr.error) (hwritten : w.wr.written = given.take w.wr.limit)
      (hlimit : w.wr.limit + waiting < given.length)

variable {w : Writer β ε} {given : List β} {waiting : ℕ}

lemma took_newWriterSize (size limit : ℕ) (error : ε) :
    (newWriterSize size ⟨([] : List β), limit, error⟩).Took [] 0 :=
  .waits rfl rfl rfl (Nat.zero_le _) (Nat.zero_le _)

/-- A writer that has failed stays as it is, whatever it is given. -/
lemma Took.append {p : List β} {waiting' : ℕ} (h : w.Took given waiting) (herr : w.err.isSome)
    (hwaiting : waiting' ≤ waiting + p.length) : w.Took (given ++ p) waiting' := by
  cases h with
  | waits hnone =>
      rw [hnone] at herr
      exact absurd herr Bool.false_ne_true
  | failed herr hwritten hlimit =>
      refine .failed herr ?_ ?_
      · rw [hwritten, List.take_append_of_le_length (by omega)]
      · rw [List.length_append]
        omega

/-- The file is given all that waits. -/
lemma took_of_write {f : Sink β ε} {p : List β} (hf : f.written.length ≤ f.limit)
    (hgiven : f.written ++ p = given) (herr : w.err = f.writeError p) (hwr : w.wr = f.write p)
    (hbuf : f.writeError p = none → w.buf = []) : w.Took given 0 := by
  have hwritten : w.wr.written = given.take w.wr.limit := by
    rw [hwr, Sink.written_write hf, hgiven]
    rfl
  have hlimit : w.wr.limit = f.limit := by
    rw [hwr]
    rfl
  by_cases hnone : f.writeError p = none
  · have hle : given.length ≤ f.limit := hgiven ▸ (Sink.writeError_eq_none hf).mp hnone
    have hall : w.wr.written = given := by rw [hwritten, hlimit, List.take_of_length_le hle]
    refine .waits (herr.trans hnone) ?_ ?_ (Nat.zero_le _) ?_
    · rw [hall, hbuf hnone, List.append_nil]
    · rw [hbuf hnone, List.length_nil]
    · rw [hall, hlimit]
      exact hle
  · have hlt : ¬ (f.written ++ p).length ≤ f.limit := fun hle =>
      hnone ((Sink.writeError_eq_none hf).mpr hle)
    refine .failed ?_ hwritten ?_
    · rw [herr, Sink.writeError_eq_error hnone, hwr]
      rfl
    · rw [hlimit, ← hgiven]
      omega

/-- After a flush nothing waits. -/
lemma Took.flush (h : w.Took given waiting) : w.flush.Took given 0 := by
  cases h with
  | failed herr hwritten hlimit =>
      rw [Writer.flush, herr, Option.isSome_some, if_pos rfl]
      exact .failed herr hwritten (by omega)
  | waits herr hgiven hbuf hsize hlimit =>
      rw [Writer.flush, herr, Option.isSome_none, if_neg Bool.false_ne_true]
      refine took_of_write hlimit hgiven rfl rfl fun hnone => ?_
      have hle := (Sink.writeError_eq_none hlimit).mp hnone
      rw [List.length_append] at hle
      exact List.drop_eq_nil_of_le (by rw [Sink.room]; omega)

/-- A write into an empty buffer. -/
lemma Took.writeEmpty (h : w.Took given 0) (herr : w.err = none) (p : List β) :
    (w.writeEmpty p).Took (given ++ p) (if p.length ≤ w.size then p.length else 0) := by
  cases h with
  | failed hsome =>
      rw [herr] at hsome
      cases hsome
  | waits _ hgiven hbuf hsize hlimit =>
      have hnil : w.buf = [] := List.length_eq_zero_iff.mp hbuf
      rw [hnil, List.append_nil] at hgiven
      rw [Writer.writeEmpty]
      split_ifs with hp
      · exact .waits herr (congrArg (· ++ p) hgiven) rfl hp hlimit
      · exact took_of_write hlimit (congrArg (· ++ p) hgiven) rfl rfl fun _ => hnil

/-- A buffer that is filled. -/
lemma Took.fill (h : w.Took given waiting) (herr : w.err = none) {p : List β}
    (hp : waiting + p.length ≤ w.size) :
    Took { w with buf := w.buf ++ p } (given ++ p) (waiting + p.length) := by
  cases h with
  | failed hsome =>
      rw [herr] at hsome
      cases hsome
  | waits _ hgiven hbuf hsize hlimit =>
      refine .waits herr ?_ ?_ hp hlimit
      · rw [← hgiven, List.append_assoc]
      · rw [List.length_append, hbuf]

lemma Took.length_buf (h : w.Took given waiting) (herr : w.err = none) :
    w.buf.length = waiting ∧ waiting ≤ w.size := by
  cases h with
  | failed hsome =>
      rw [herr] at hsome
      cases hsome
  | waits _ _ hbuf hsize => exact ⟨hbuf, hsize⟩

/-- What a writer does not change: the size of its buffer, and what the file takes. -/
def config (w : Writer β ε) : ℕ × ℕ × ε := (w.size, w.wr.limit, w.wr.error)

lemma config_flush : w.flush.config = w.config := by
  rw [Writer.flush]
  split_ifs <;> rfl

lemma config_writeEmpty (p : List β) : (w.writeEmpty p).config = w.config := by
  rw [Writer.writeEmpty]
  split_ifs <;> rfl

lemma config_write (p : List β) : (w.write p).config = w.config := by
  rw [Writer.write]
  dsimp only
  split_ifs
  · rfl
  · rfl
  · exact config_writeEmpty p
  · exact config_flush
  · exact (config_writeEmpty _).trans config_flush

lemma config_writeAll (chunks : List (List β)) : (w.writeAll chunks).config = w.config := by
  induction chunks generalizing w with
  | nil => rfl
  | cons p chunks ih => exact ih.trans (config_write p)

lemma size_of_config {w w' : Writer β ε} (h : w'.config = w.config) : w'.size = w.size :=
  congrArg Prod.fst h

/-- A write that fills the buffer and flushes it: the rest finds it empty. -/
lemma Took.refill {p : List β} (h : w.Took given waiting) (herr : w.err = none)
    (hsize : waiting ≤ w.size) (hpos : waiting ≠ 0) (hfits : ¬ waiting + p.length ≤ w.size) :
    let room := w.size - waiting
    let w' := { w with buf := w.buf ++ p.take room }.flush
    (if w'.err.isSome then w' else w'.writeEmpty (p.drop room)).Took (given ++ p)
      (heldAfter w.size waiting p.length) := by
  intro room w'
  have htake : (p.take room).length = w.size - waiting := List.length_take_of_le (by omega)
  have hdrop : (p.drop room).length = waiting + p.length - w.size := by
    rw [List.length_drop]
    omega
  have hflush : w'.Took (given ++ p.take room) 0 := (h.fill herr (by omega)).flush
  have hgiven : (given ++ p.take room) ++ p.drop room = given ++ p := by
    rw [List.append_assoc, List.take_append_drop]
  have hheld : heldAfter w.size waiting p.length
      = if (p.drop room).length ≤ w.size then (p.drop room).length else 0 := by
    rw [heldAfter, if_neg hfits, if_neg hpos, hdrop]
    split_ifs <;> omega
  rw [hheld]
  by_cases hfailed : w'.err.isSome
  · rw [if_pos hfailed, ← hgiven]
    refine hflush.append hfailed ?_
    split_ifs <;> omega
  · have hwrite := hflush.writeEmpty (Option.not_isSome_iff_eq_none.mp hfailed) (p.drop room)
    rw [size_of_config config_flush, hgiven] at hwrite
    rw [if_neg hfailed]
    exact hwrite

/-- **One write.** -/
lemma took_write (h : w.Took given waiting) (p : List β) :
    (w.write p).Took (given ++ p) (heldAfter w.size waiting p.length) := by
  rw [Writer.write]
  by_cases hsome : w.err.isSome
  · rw [if_pos hsome]
    exact h.append hsome (heldAfter_le _ _ _)
  have herr : w.err = none := Option.not_isSome_iff_eq_none.mp hsome
  obtain ⟨hbuf, hsize⟩ := h.length_buf herr
  rw [if_neg hsome, hbuf]
  by_cases hfits : waiting + p.length ≤ w.size
  · rw [if_pos hfits, heldAfter, if_pos hfits]
    exact h.fill herr hfits
  rw [if_neg hfits]
  by_cases hnil : w.buf = []
  · have hzero : waiting = 0 := by rw [← hbuf, hnil, List.length_nil]
    subst hzero
    have hlarge : ¬ p.length ≤ w.size := by omega
    have hwrite := h.writeEmpty herr p
    rw [if_neg hlarge] at hwrite
    rw [if_pos hnil, heldAfter, if_neg hfits, if_pos rfl]
    exact hwrite
  · rw [if_neg hnil]
    have hpos : waiting ≠ 0 := fun hzero => hnil (List.length_eq_zero_iff.mp (hbuf.trans hzero))
    exact h.refill herr hsize hpos hfits

/-- **Any number of writes.** -/
theorem took_writeAll (h : w.Took given waiting) (chunks : List (List β)) :
    (w.writeAll chunks).Took (given ++ chunks.flatten)
      ((chunks.map List.length).foldl (heldAfter w.size) waiting) := by
  induction chunks generalizing w given waiting with
  | nil => rwa [List.flatten_nil, List.append_nil]
  | cons p chunks ih =>
      have hrest := ih (took_write h p)
      rwa [size_of_config (config_write p), List.append_assoc, ← List.flatten_cons] at hrest

/-- A writer has not failed as long as the file has had room for what does not wait. -/
lemma Took.err_eq_none (h : w.Took given waiting) :
    w.err = none ↔ given.length ≤ w.wr.limit + waiting := by
  cases h with
  | waits herr hgiven hbuf hsize hlimit =>
      refine iff_of_true herr ?_
      rw [← hgiven, List.length_append]
      omega
  | failed herr hwritten hlimit =>
      refine iff_of_false ?_ (by omega)
      rw [herr]
      exact Option.some_ne_none _

/-- What is in the file when nothing waits, or the writer has failed. -/
lemma Took.written (h : w.Took given waiting) (hdone : waiting = 0 ∨ w.err ≠ none) :
    w.wr.written = given.take w.wr.limit := by
  cases h with
  | failed _ hwritten => exact hwritten
  | waits herr hgiven hbuf hsize hlimit =>
      have hnil : w.buf = [] := List.length_eq_zero_iff.mp
        (hbuf.trans (hdone.resolve_right fun hne => hne herr))
      rw [hnil, List.append_nil] at hgiven
      rw [← hgiven, List.take_of_length_le hlimit]

/-- **A file written through a buffer.**  The writes report the error of the file only where it
comes before the bytes that wait at the end; what is in the file after them, if they have failed, and
after the flush is what it has taken. -/
theorem writeAll_newWriterSize (size limit : ℕ) (error : ε) (chunks : List (List β)) :
    let w := (newWriterSize size ⟨[], limit, error⟩).writeAll chunks
    let total := chunks.flatten
    (w.err = none ↔ total.length ≤ limit + held size (chunks.map List.length)) ∧
      (w.err ≠ none → w.err = some error ∧ w.wr.written = total.take limit) ∧
      w.flush.wr.written = total.take limit := by
  intro w total
  have htook : w.Took total (held size (chunks.map List.length)) :=
    took_writeAll (took_newWriterSize size limit error) chunks
  have hconfig : w.config = (size, limit, error) := config_writeAll chunks
  have hlimit : w.wr.limit = limit := congrArg (·.2.1) hconfig
  refine ⟨?_, fun hne => ⟨?_, ?_⟩, ?_⟩
  · rw [htook.err_eq_none, hlimit]
  · cases htook with
    | waits herr => exact absurd herr hne
    | failed herr => exact herr.trans (congrArg (some ·.2.2) hconfig)
  · rw [htook.written (.inr hne), hlimit]
  · rw [htook.flush.written (.inl rfl)]
    exact congrArg (total.take ·.2.1) (config_flush.trans hconfig)

end Writer

end Bufio
