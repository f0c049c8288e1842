import Mathlib.Logic.Function.Basic
import Snapweb.Core.Machine
import Snapweb.Packages.Operations

/-!
# Requests served at once

The HTTP server runs every request in a goroutine of its own.  Here each request is a thread that
takes one atomic step at a time: it looks the snap up, calls snapd, checks the tracker without its
lock, and writes or evaluates under the lock.  Which thread moves and what snapd answers are the
events of a run.

`InTurn` connects these steps to the handlers.  `marks` is bookkeeping that the program does not
have: for each snap, when the entry in place was stored, and when snapd accepted its change, if it
did.

* `accepted_entry_kept` — the entry of an accepted change goes only by an abort of that change, by
  a record fetched since that shows it completed, or by a change accepted later, in every run in
  which operations are stored only while no other request on the snap can harm them; and where
  one is not, the run can go on to such a loss.
* `stale_record_drops_entry` — such a run: a record from before the operation drops its entry.
-/

namespace Snapweb

/-- What a request is for. -/
inductive Job
  | start (op : Operation)
  | cancel
  | get
  deriving DecidableEq, Repr

/-- A request being served: what it is about to do, and what it knows. -/
inductive Thread
  | idle
  | lookingUp (job : Job) (name : String)
  | calling (op : Operation) (snap : Snap)
  | checking (op : Operation) (snap : Snap) (changeID : String) (acceptedAt : Option ℕ)
  | storing (op : Operation) (name changeID : String) (acceptedAt : Option ℕ)
  | abortChecking (snap : Snap)
  | aborting (name changeID : String)
  | cancelling (name changeID : String)
  | evaluating (snap : Snap) (fetchedAt : ℕ)

/-- A step of a thread, with snapd's answer where the step is a call. -/
inductive Move
  | arrive (job : Job) (name : String)
  /-- The record that was found, if it was. -/
  | lookup (found : Option Snap)
  | call (answer : String × Option Error)
  | check
  | store
  | abort (answer : Option Error)
  | cancel
  | evaluate (c : SnapdClient)

/-- When the entry in place was stored, and when snapd accepted its change. -/
structure Mark where
  acceptedAt : Option ℕ
  storedAt : ℕ
  deriving DecidableEq

/-- The tracker and the requests being served. -/
structure World where
  tracker : StateTracker
  threads : ℕ → Thread
  now : ℕ
  marks : String → Option Mark

/-- The thread after its lookup. -/
def Job.afterLookup (now : ℕ) (snap : Snap) : Job → Thread
  | start op => if op.admits snap then .calling op snap else .idle
  | cancel => .abortChecking snap
  | get => .evaluating snap now

/-- The thread after snapd's answer to its call. -/
def Operation.afterCall (now : ℕ) (op : Operation) (snap : Snap) : String × Option Error → Thread
  | (changeID, none) => .checking op snap changeID (some now)
  | (changeID, some _) => if op.tracksRefused then .checking op snap changeID none else .idle

namespace World

/-- No request is being served. -/
def init : World := { tracker := .new, threads := fun _ => .idle, now := 0, marks := fun _ => none }

/-- A thread goes on, and time with it. -/
def become (w : World) (i : ℕ) (th : Thread) : World :=
  { w with threads := Function.update w.threads i th, now := w.now + 1 }

/-- A thread writes its operation, under the lock. -/
def store (w : World) (i : ℕ) (op : Operation) (name changeID : String) (acceptedAt : Option ℕ) :
    World :=
  { w.become i .idle with
    tracker := w.tracker.trackOperation changeID name op.status
    marks := Function.update w.marks name (some ⟨acceptedAt, w.now⟩) }

/-- One step of the thread `i`.  snapd's records have the name that was asked for. -/
def next (w : World) : ℕ × Move → Option World
  | (i, move) =>
      match w.threads i with
      | .idle =>
          match move with
          | .arrive job name => some (w.become i (.lookingUp job name))
          | _ => none
      | .lookingUp job name =>
          match move with
          | .lookup none => some (w.become i .idle)
          | .lookup (some snap) =>
              if snap.name = name then some (w.become i (job.afterLookup w.now snap)) else none
          | _ => none
      | .calling op snap =>
          match move with
          | .call answer => some (w.become i (op.afterCall w.now snap answer))
          | _ => none
      | .checking op snap changeID acceptedAt =>
          match move with
          | .check =>
              if op.precondition snap && !(w.tracker.isTrackedForRunningOperation snap).1 then
                some (w.become i (.storing op snap.name changeID acceptedAt))
              else some (w.become i .idle)
          | _ => none
      | .storing op name changeID acceptedAt =>
          match move with
          | .store => some (w.store i op name changeID acceptedAt)
          | _ => none
      | .abortChecking snap =>
          match move with
          | .check =>
              if (w.tracker.isTrackedForRunningOperation snap).1 then
                some (w.become i
                  (.aborting snap.name (w.tracker.isTrackedForRunningOperation snap).2))
              else some (w.become i .idle)
          | _ => none
      | .aborting name changeID =>
          match move with
          | .abort none => some (w.become i (.cancelling name changeID))
          | .abort (some _) => some (w.become i .idle)
          | _ => none
      | .cancelling name _ =>
          match move with
          | .cancel => some { w.become i .idle with tracker := w.tracker.cancelTrackingFor name }
          | _ => none
      | .evaluating snap _ =>
          match move with
          | .evaluate c =>
              some { w.become i .idle with tracker := (w.tracker.state (some c) snap).2 }
          | _ => none

/-- The requests, as a machine. -/
def machine : Machine World (ℕ × Move) := ⟨next⟩

/-- What one step of the thread `i` can do, with what it takes to do it. -/
inductive Takes (w : World) (i : ℕ) : Move → World → Prop
  | arrived (job : Job) (name : String) : w.threads i = .idle →
      Takes w i (.arrive job name) (w.become i (.lookingUp job name))
  | notFound (job : Job) (name : String) : w.threads i = .lookingUp job name →
      Takes w i (.lookup none) (w.become i .idle)
  | found (job : Job) (snap : Snap) : w.threads i = .lookingUp job snap.name →
      Takes w i (.lookup (some snap)) (w.become i (job.afterLookup w.now snap))
  | answered (op : Operation) (snap : Snap) (answer : String × Option Error) :
      w.threads i = .calling op snap →
      Takes w i (.call answer) (w.become i (op.afterCall w.now snap answer))
  | passed (op : Operation) (snap : Snap) (changeID : String) (acceptedAt : Option ℕ) :
      w.threads i = .checking op snap changeID acceptedAt → op.precondition snap = true →
      (w.tracker.isTrackedForRunningOperation snap).1 = false →
      Takes w i .check (w.become i (.storing op snap.name changeID acceptedAt))
  | ignored (op : Operation) (snap : Snap) (changeID : String) (acceptedAt : Option ℕ) :
      w.threads i = .checking op snap changeID acceptedAt →
      (op.precondition snap = true → (w.tracker.isTrackedForRunningOperation snap).1 = true) →
      Takes w i .check (w.become i .idle)
  | stored (op : Operation) (name changeID : String) (acceptedAt : Option ℕ) :
      w.threads i = .storing op name changeID acceptedAt →
      Takes w i .store (w.store i op name changeID acceptedAt)
  | running (snap : Snap) (changeID : String) : w.threads i = .abortChecking snap →
      w.tracker.isTrackedForRunningOperation snap = (true, changeID) →
      Takes w i .check (w.become i (.aborting snap.name changeID))
  | notRunning (snap : Snap) : w.threads i = .abortChecking snap →
      (w.tracker.isTrackedForRunningOperation snap).1 = false →
      Takes w i .check (w.become i .idle)
  | aborted (name changeID : String) : w.threads i = .aborting name changeID →
      Takes w i (.abort none) (w.become i (.cancelling name changeID))
  | notAborted (name changeID : String) (err : Error) : w.threads i = .aborting name changeID →
      Takes w i (.abort (some err)) (w.become i .idle)
  | cancelled (name changeID : String) : w.threads i = .cancelling name changeID →
      Takes w i .cancel { w.become i .idle with tracker := w.tracker.cancelTrackingFor name }
  | evaluated (snap : Snap) (fetchedAt : ℕ) (c : SnapdClient) :
      w.threads i = .evaluating snap fetchedAt →
      Takes w i (.evaluate c)
        { w.become i .idle with tracker := (w.tracker.state (some c) snap).2 }

/-- Every step is one of these. -/
lemma takes_of_next {w w' : World} {i : ℕ} {move : Move}
    (hs : machine.next w (i, move) = some w') : w.Takes i move w' := by
  simp only [machine, World.next] at hs
  cases hth : w.threads i with
  | idle =>
      cases move <;> simp only [hth, reduceCtorEq, Option.some.injEq] at hs
      exact hs ▸ .arrived _ _ hth
  | lookingUp job name =>
      cases move <;> simp only [hth, reduceCtorEq] at hs
      next found =>
        cases found with
        | none => exact Option.some_inj.mp hs ▸ .notFound _ _ hth
        | some snap =>
            simp only [Option.ite_none_right_eq_some, Option.some.injEq] at hs
            obtain ⟨rfl, rfl⟩ := hs
            exact .found _ _ hth
  | calling op snap =>
      cases move <;> simp only [hth, reduceCtorEq, Option.some.injEq] at hs
      exact hs ▸ .answered _ _ _ hth
  | checking op snap changeID acceptedAt =>
      cases move <;> simp only [hth, reduceCtorEq] at hs
      split_ifs at hs with hcheck
      · rw [Bool.and_eq_true, Bool.not_eq_true'] at hcheck
        exact Option.some_inj.mp hs ▸ .passed _ _ _ _ hth hcheck.1 hcheck.2
      · refine Option.some_inj.mp hs ▸ .ignored _ _ _ _ hth fun hpre => ?_
        simpa [hpre] using hcheck
  | storing op name changeID acceptedAt =>
      cases move <;> simp only [hth, reduceCtorEq, Option.some.injEq] at hs
      exact hs ▸ .stored _ _ _ _ hth
  | abortChecking snap =>
      cases move <;> simp only [hth, reduceCtorEq] at hs
      split_ifs at hs with hrun
      · exact Option.some_inj.mp hs ▸ .running _ _ hth (Prod.ext hrun rfl)
      · exact Option.some_inj.mp hs ▸ .notRunning _ hth (Bool.eq_false_of_not_eq_true hrun)
  | aborting name changeID =>
      cases move <;> simp only [hth, reduceCtorEq] at hs
      next answer =>
        cases answer with
        | none => exact Option.some_inj.mp hs ▸ .aborted _ _ hth
        | some err => exact Option.some_inj.mp hs ▸ .notAborted _ _ _ hth
  | cancelling name changeID =>
      cases move <;> simp only [hth, reduceCtorEq, Option.some.injEq] at hs
      exact hs ▸ .cancelled _ _ hth
  | evaluating snap fetchedAt =>
      cases move <;> simp only [hth, reduceCtorEq, Option.some.injEq] at hs
      exact hs ▸ .evaluated _ _ _ hth

/-- And each of these is a step. -/
lemma Takes.next {w w' : World} {i : ℕ} {move : Move} (h : w.Takes i move w') :
    machine.next w (i, move) = some w' := by
  simp only [machine, World.next]
  cases h with
  | found job snap hth => simp only [hth, if_true]
  | passed op snap changeID acceptedAt hth hpre hrun => simp [hth, hpre, hrun]
  | ignored op snap changeID acceptedAt hth hcheck =>
      simp only [hth, Bool.and_eq_true, Bool.not_eq_true']
      exact if_neg fun h => by simp [hcheck h.1] at h
  | running snap changeID hth hrun => simp [hth, hrun]
  | notRunning snap hth hrun => simp [hth, hrun]
  | arrived job name hth => simp only [hth]
  | notFound job name hth => simp only [hth]
  | answered op snap answer hth => simp only [hth]
  | stored op name changeID acceptedAt hth => simp only [hth]
  | aborted name changeID hth => simp only [hth]
  | notAborted name changeID err hth => simp only [hth]
  | cancelled name changeID hth => simp only [hth]
  | evaluated snap fetchedAt c hth => simp only [hth]

/-! ## What is to be kept -/

/-- The entry for `n` is `e`, stored at `storedAt` for a change that snapd accepted at
`acceptedAt`. -/
def AcceptedEntry (w : World) (n : String) (e : SnapState) (acceptedAt storedAt : ℕ) : Prop :=
  w.tracker.lookup n = some e ∧ w.marks n = some ⟨some acceptedAt, storedAt⟩

/-- The entry for `n` is removed or replaced, be it by an equal one. -/
def Displaced (w w' : World) (n : String) : Prop :=
  w'.tracker.lookup n ≠ w.tracker.lookup n ∨ w'.marks n ≠ w.marks n

/-- The step has a right to displace the entry `e` for `n`: it is an abort of the entry's change,
or the evaluation of a record that was fetched since and shows the operation completed, or it
stores a change that snapd accepted later. -/
def Rightful (w : World) (n : String) (e : SnapState) (acceptedAt storedAt : ℕ) (ev : ℕ × Move) :
    Prop :=
  (ev.2 = .cancel ∧ w.threads ev.1 = .cancelling n e.changeID) ∨
  (∃ c snap fetchedAt, ev.2 = .evaluate c ∧ w.threads ev.1 = .evaluating snap fetchedAt ∧
    snap.name = n ∧ storedAt < fetchedAt ∧ hasOperationCompleted e.status snap = true) ∨
  ∃ op changeID t, ev.2 = .store ∧ w.threads ev.1 = .storing op n changeID (some t) ∧
    acceptedAt < t

/-- Entries of accepted changes are displaced rightfully only. -/
def KeepsAccepted (w : World) (ev : ℕ × Move) (w' : World) : Prop :=
  ∀ n e acceptedAt storedAt, w.AcceptedEntry n e acceptedAt storedAt → w.Displaced w' n →
    w.Rightful n e acceptedAt storedAt ev

/-- A request in flight does not act on older knowledge against an entry: no record that was
fetched before and shows the operation completed waits to be evaluated, no abort of another change
waits to cancel, and no change that snapd accepted before waits to be stored. -/
def Harmless (n : String) (e : SnapState) (acceptedAt storedAt : ℕ) : Thread → Prop
  | .checking op snap _ newAcceptedAt =>
      ∀ t, newAcceptedAt = some t → snap.name = n → op.precondition snap = true →
        hasOperationCompleted e.status snap = true → acceptedAt < t
  | .storing _ name _ newAcceptedAt =>
      ∀ t, newAcceptedAt = some t → name = n → acceptedAt < t
  | .aborting name changeID => name = n → changeID = e.changeID
  | .cancelling name changeID => name = n → changeID = e.changeID
  | .evaluating snap fetchedAt =>
      snap.name = n → hasOperationCompleted e.status snap = true → storedAt < fetchedAt
  | _ => True

/-- An accepted change is stored only while every other request in flight is harmless to it, and
a refused one only where there is no entry of an accepted change. -/
def StoresSafely (w : World) (ev : ℕ × Move) (_ : World) : Prop :=
  ∀ op name changeID acceptedAt, ev.2 = .store →
    w.threads ev.1 = .storing op name changeID acceptedAt →
    (∀ t, acceptedAt = some t → ∀ j, j ≠ ev.1 →
      Harmless name { status := op.status, changeID := changeID } t w.now (w.threads j)) ∧
    (acceptedAt = none → ∀ e a s, ¬ w.AcceptedEntry name e a s)

/-! ## The invariant -/

/-- What a thread knows is from the past. -/
def Past (now : ℕ) : Thread → Prop
  | .checking _ _ _ acceptedAt => ∀ t, acceptedAt = some t → t < now
  | .storing _ _ _ acceptedAt => ∀ t, acceptedAt = some t → t < now
  | .evaluating _ fetchedAt => fetchedAt < now
  | _ => True

/-- Every request in flight is harmless to every entry of an accepted change. -/
structure Inv (w : World) : Prop where
  marks : ∀ n m, w.marks n = some m → m.storedAt < w.now ∧ ∀ t, m.acceptedAt = some t → t < w.now
  past : ∀ j, Past w.now (w.threads j)
  harmless : ∀ n e acceptedAt storedAt, w.AcceptedEntry n e acceptedAt storedAt →
    ∀ j, Harmless n e acceptedAt storedAt (w.threads j)

lemma Past.mono {now : ℕ} {th : Thread} (h : Past now th) : Past (now + 1) th := by
  cases th with
  | checking op snap changeID acceptedAt => exact fun t ht => Nat.lt_succ_of_lt (h t ht)
  | storing op name changeID acceptedAt => exact fun t ht => Nat.lt_succ_of_lt (h t ht)
  | evaluating snap fetchedAt => exact Nat.lt_succ_of_lt h
  | _ => trivial

lemma inv_init : Inv init where
  marks n m h := by cases h
  past j := trivial
  harmless n e a s h j := trivial

lemma threads_become_self (w : World) (i : ℕ) (th : Thread) : (w.become i th).threads i = th :=
  Function.update_self _ _ _

lemma threads_become_ne (w : World) {i j : ℕ} (th : Thread) (h : j ≠ i) :
    (w.become i th).threads j = w.threads j :=
  Function.update_of_ne h _ _

/-- A thread goes on and the tracker at most loses entries: the invariant is kept if the thread is
harmless where it goes. -/
lemma Inv.become {w : World} (h : Inv w) (i : ℕ) {th : Thread} (t : StateTracker)
    (ht : ∀ n e, t.lookup n = some e → w.tracker.lookup n = some e)
    (hpast : Past (w.now + 1) th)
    (hth : ∀ n e acceptedAt storedAt, w.AcceptedEntry n e acceptedAt storedAt →
      Harmless n e acceptedAt storedAt th) : Inv { w.become i th with tracker := t } where
  marks n m hm := by
    obtain ⟨hstored, haccepted⟩ := h.marks n m hm
    exact ⟨Nat.lt_succ_of_lt hstored, fun t ht => Nat.lt_succ_of_lt (haccepted t ht)⟩
  past j := by
    by_cases hj : j = i
    · rw [hj]
      exact (threads_become_self w i th).symm ▸ hpast
    · exact (threads_become_ne w th hj).symm ▸ (h.past j).mono
  harmless n e a s he j := by
    have he' : w.AcceptedEntry n e a s := ⟨ht n e he.1, he.2⟩
    by_cases hj : j = i
    · rw [hj]
      exact (threads_become_self w i th).symm ▸ hth n e a s he'
    · exact (threads_become_ne w th hj).symm ▸ h.harmless n e a s he' j

/-- A thread that goes idle is harmless. -/
lemma Inv.idle {w : World} (h : Inv w) (i : ℕ) (t : StateTracker)
    (ht : ∀ n e, t.lookup n = some e → w.tracker.lookup n = some e) :
    Inv { w.become i .idle with tracker := t } :=
  h.become i t ht trivial fun _ _ _ _ _ => trivial

lemma marks_store_self (w : World) (i : ℕ) (op : Operation) (name changeID : String)
    (acceptedAt : Option ℕ) :
    (w.store i op name changeID acceptedAt).marks name = some ⟨acceptedAt, w.now⟩ :=
  Function.update_self _ _ _

lemma marks_store_ne (w : World) (i : ℕ) (op : Operation) {n name : String} (changeID : String)
    (acceptedAt : Option ℕ) (h : n ≠ name) :
    (w.store i op name changeID acceptedAt).marks n = w.marks n :=
  Function.update_of_ne h _ _

/-- An accepted change is stored while the other requests are harmless to it, or a refused one is
stored: the invariant is kept. -/
lemma Inv.store {w : World} (h : Inv w) (i : ℕ) (op : Operation) (name changeID : String)
    {acceptedAt : Option ℕ} (hpast : ∀ t, acceptedAt = some t → t < w.now)
    (hothers : ∀ t, acceptedAt = some t → ∀ j, j ≠ i →
      Harmless name { status := op.status, changeID := changeID } t w.now (w.threads j)) :
    Inv (w.store i op name changeID acceptedAt) where
  marks n m hm := by
    by_cases hn : n = name
    · rw [hn, marks_store_self] at hm
      cases hm
      exact ⟨Nat.lt_succ_self _, fun t ht => Nat.lt_succ_of_lt (hpast t ht)⟩
    · rw [marks_store_ne w i op changeID acceptedAt hn] at hm
      obtain ⟨hstored, haccepted⟩ := h.marks n m hm
      exact ⟨Nat.lt_succ_of_lt hstored, fun t ht => Nat.lt_succ_of_lt (haccepted t ht)⟩
  past j := by
    by_cases hj : j = i
    · rw [hj]
      exact (threads_become_self w i .idle).symm ▸ trivial
    · exact (threads_become_ne w .idle hj).symm ▸ (h.past j).mono
  harmless n e a s he j := by
    by_cases hj : j = i
    · rw [hj]
      exact (threads_become_self w i .idle).symm ▸ trivial
    · refine (threads_become_ne w .idle hj).symm ▸ ?_
      obtain ⟨hlookup, hmark⟩ := he
      by_cases hn : n = name
      · subst hn
        rw [marks_store_self, Option.some_inj, Mark.mk.injEq] at hmark
        obtain ⟨hacc, rfl⟩ := hmark
        have hentry := StateTracker.lookup_trackOperation_self w.tracker changeID n op.status
        have he : e = { status := op.status, changeID := changeID } :=
          Option.some_inj.mp (hlookup.symm.trans hentry)
        rw [he]
        exact hothers a hacc j hj
      · rw [marks_store_ne w i op changeID acceptedAt hn] at hmark
        have hlookup' := StateTracker.lookup_trackOperation_ne w.tracker changeID op.status hn
        exact h.harmless n e a s ⟨hlookup'.symm.trans hlookup, hmark⟩ j

/-- The thread after its lookup is harmless: the record was fetched just now. -/
lemma Inv.harmless_afterLookup {w : World} (h : Inv w) (job : Job) (snap : Snap) :
    Past (w.now + 1) (job.afterLookup w.now snap) ∧
      ∀ n e a s, w.AcceptedEntry n e a s → Harmless n e a s (job.afterLookup w.now snap) := by
  cases job with
  | start op =>
      simp only [Job.afterLookup]
      split_ifs
      · exact ⟨trivial, fun _ _ _ _ _ => trivial⟩
      · exact ⟨trivial, fun _ _ _ _ _ => trivial⟩
  | cancel => exact ⟨trivial, fun _ _ _ _ _ => trivial⟩
  | get => exact ⟨Nat.lt_succ_self _, fun n e a s he _ _ => (h.marks n _ he.2).1⟩

/-- The thread after snapd's answer is harmless: its change was accepted just now. -/
lemma Inv.harmless_afterCall {w : World} (h : Inv w) (op : Operation) (snap : Snap)
    (answer : String × Option Error) :
    Past (w.now + 1) (op.afterCall w.now snap answer) ∧
      ∀ n e a s, w.AcceptedEntry n e a s → Harmless n e a s (op.afterCall w.now snap answer) := by
  obtain ⟨changeID, _ | err⟩ := answer
  · refine ⟨fun t ht => ?_, fun n e a s he t ht _ _ _ => ?_⟩
    · cases ht
      exact Nat.lt_succ_self _
    · cases ht
      exact (h.marks n _ he.2).2 a rfl
  · simp only [Operation.afterCall]
    split_ifs
    · exact ⟨fun t ht => (by cases ht), fun _ _ _ _ _ t ht => (by cases ht)⟩
    · exact ⟨trivial, fun _ _ _ _ _ => trivial⟩

/-- The thread after a check that lets it store is harmless: the record shows the entry in place
completed, so its change was accepted before. -/
lemma Inv.harmless_storing {w : World} (h : Inv w) {i : ℕ} {op : Operation} {snap : Snap}
    {changeID : String} {acceptedAt : Option ℕ}
    (hth : w.threads i = .checking op snap changeID acceptedAt)
    (hpre : op.precondition snap = true)
    (hrun : (w.tracker.isTrackedForRunningOperation snap).1 = false) :
    Past (w.now + 1) (.storing op snap.name changeID acceptedAt) ∧
      ∀ n e a s, w.AcceptedEntry n e a s →
        Harmless n e a s (.storing op snap.name changeID acceptedAt) := by
  have hpast := h.past i
  rw [hth] at hpast
  refine ⟨fun t ht => Nat.lt_succ_of_lt (hpast t ht), fun n e a s he t ht hname => ?_⟩
  have hharmless := h.harmless n e a s he i
  rw [hth] at hharmless
  subst hname
  rw [StateTracker.isTracked_of_lookup he.1] at hrun
  exact hharmless t ht rfl hpre (by simpa using hrun)

/-- The thread after the check of an abort is harmless: it has the id of the change in place. -/
lemma harmless_aborting {w : World} {snap : Snap} {changeID : String}
    (htr : w.tracker.isTrackedForRunningOperation snap = (true, changeID)) (n : String)
    (e : SnapState) (a s : ℕ) (he : w.AcceptedEntry n e a s) :
    Harmless n e a s (.aborting snap.name changeID) := by
  intro hname
  subst hname
  rw [StateTracker.isTracked_of_lookup he.1, Prod.mk.injEq] at htr
  exact htr.2.symm

/-- One step keeps the invariant, if it stores safely. -/
lemma Inv.next {w w' : World} {ev : ℕ × Move} (h : Inv w) (hs : machine.next w ev = some w')
    (hsafe : w.StoresSafely ev w') : Inv w' := by
  obtain ⟨i, move⟩ := ev
  have hsame : ∀ n e, w.tracker.lookup n = some e → w.tracker.lookup n = some e := fun _ _ he => he
  cases takes_of_next hs with
  | arrived => exact h.become i w.tracker hsame trivial fun _ _ _ _ _ => trivial
  | notFound => exact h.idle i w.tracker hsame
  | found job snap =>
      obtain ⟨hpast, hharmless⟩ := h.harmless_afterLookup job snap
      exact h.become i w.tracker hsame hpast hharmless
  | answered op snap answer =>
      obtain ⟨hpast, hharmless⟩ := h.harmless_afterCall op snap answer
      exact h.become i w.tracker hsame hpast hharmless
  | passed op snap changeID acceptedAt hth hpre hrun =>
      obtain ⟨hpast, hharmless⟩ := h.harmless_storing hth hpre hrun
      exact h.become i w.tracker hsame hpast hharmless
  | ignored => exact h.idle i w.tracker hsame
  | stored op name changeID acceptedAt hth =>
      have hpast := h.past i
      rw [hth] at hpast
      exact h.store i op name changeID hpast (hsafe op name changeID acceptedAt rfl hth).1
  | running snap changeID hth hrun =>
      exact h.become i w.tracker hsame trivial (harmless_aborting hrun)
  | notRunning => exact h.idle i w.tracker hsame
  | aborted name changeID hth =>
      refine h.become i w.tracker hsame trivial fun n e a s he => ?_
      have hharmless := h.harmless n e a s he i
      rwa [hth] at hharmless
  | notAborted => exact h.idle i w.tracker hsame
  | cancelled name =>
      refine h.idle i _ fun n e he => ?_
      rw [StateTracker.cancelTrackingFor_eq] at he
      exact StateTracker.lookup_of_lookup_drop he
  | evaluated => exact h.idle i _ fun n e he => StateTracker.lookup_of_lookup_state he

/-! ## Who displaces an entry -/

/-- Where the tracker and the marks are the same, nothing is displaced. -/
lemma not_displaced {w w' : World} {n : String} (htracker : w'.tracker = w.tracker)
    (hmarks : w'.marks = w.marks) : ¬ w.Displaced w' n := by
  rintro (hlookup | hmark)
  · exact hlookup (congrArg (StateTracker.lookup · n) htracker)
  · exact hmark (congrFun hmarks n)

/-- Storing displaces no other entry. -/
lemma not_displaced_store (w : World) (i : ℕ) (op : Operation) {n name : String}
    (changeID : String) (acceptedAt : Option ℕ) (hn : n ≠ name) :
    ¬ w.Displaced (w.store i op name changeID acceptedAt) n := by
  rintro (hlookup | hmark)
  · exact hlookup (StateTracker.lookup_trackOperation_ne w.tracker changeID op.status hn)
  · exact hmark (marks_store_ne w i op changeID acceptedAt hn)

/-- An entry is displaced where the tracker drops a name only if the name is the entry's. -/
lemma displaced_drop {w : World} {i : ℕ} {t : StateTracker} {n name : String}
    (ht : t = w.tracker.drop name)
    (hdis : w.Displaced { w.become i .idle with tracker := t } n) : name = n := by
  by_contra hn
  rcases hdis with hlookup | hmark
  · refine hlookup ?_
    rw [ht]
    exact StateTracker.lookup_drop_ne w.tracker (Ne.symm hn)
  · exact hmark rfl

/-- One step from where the invariant holds displaces entries of accepted changes rightfully only,
if it stores safely. -/
lemma Inv.keepsAccepted {w w' : World} {ev : ℕ × Move} (h : Inv w)
    (hs : machine.next w ev = some w') (hsafe : w.StoresSafely ev w') : w.KeepsAccepted ev w' := by
  intro n e a s he hdis
  obtain ⟨i, move⟩ := ev
  have hharmless := h.harmless n e a s he i
  cases takes_of_next hs with
  | stored op name changeID acceptedAt hth =>
      obtain rfl : n = name := by
        by_contra hn
        exact not_displaced_store w i op changeID acceptedAt hn hdis
      cases acceptedAt with
      | none => exact absurd he ((hsafe op n changeID none rfl hth).2 rfl e a s)
      | some t =>
          rw [hth] at hharmless
          exact .inr (.inr ⟨op, changeID, t, rfl, hth, hharmless t rfl rfl⟩)
  | cancelled name changeID hth =>
      obtain rfl : name = n := displaced_drop (w.tracker.cancelTrackingFor_eq name) hdis
      rw [hth] at hharmless
      exact .inl ⟨rfl, (hharmless rfl) ▸ hth⟩
  | evaluated snap fetchedAt c hth =>
      rcases w.tracker.state_snd (some c) snap with heq | ⟨⟨e', he', hdone⟩, heq⟩
      · exact absurd hdis (not_displaced heq rfl)
      · obtain rfl : snap.name = n := displaced_drop heq hdis
        obtain rfl : e' = e := Option.some_inj.mp (he'.symm.trans he.1)
        rw [hth] at hharmless
        exact .inr (.inl ⟨c, snap, fetchedAt, rfl, hth, rfl, hharmless rfl hdone, hdone⟩)
  | _ => exact absurd hdis (not_displaced rfl rfl)

/-! ## What an unsafe store leads to -/

/-- A step that displaces the entry of an accepted change has to be rightful. -/
lemma not_along_of_takes {w w' : World} {n : String} {e : SnapState} {a s i : ℕ} {move : Move}
    (he : w.AcceptedEntry n e a s) (ht : w.Takes i move w') (hdis : w.Displaced w' n)
    (hright : ¬ w.Rightful n e a s (i, move)) : ¬ machine.Along KeepsAccepted w [(i, move)] :=
  fun h => hright ((h w' ht.next).1 n e a s he hdis)

/-- Storing displaces the entry in place, rightfully only for a change accepted later. -/
lemma not_along_store {w : World} {n : String} {e : SnapState} {a s : ℕ}
    (he : w.AcceptedEntry n e a s) {j : ℕ} {op : Operation} {changeID : String}
    {acceptedAt : Option ℕ} (hth : w.threads j = .storing op n changeID acceptedAt)
    (hnew : Mark.mk acceptedAt w.now ≠ ⟨some a, s⟩)
    (hearly : ∀ t, acceptedAt = some t → ¬ a < t) :
    ¬ machine.Along KeepsAccepted w [(j, .store)] := by
  refine not_along_of_takes he (.stored _ _ _ _ hth) (.inr ?_) ?_
  · rw [marks_store_self, he.2]
    exact fun hmark => hnew (Option.some_inj.mp hmark)
  · rintro (⟨hmove, -⟩ | ⟨_, _, _, hmove, -⟩ | ⟨op', changeID', t, -, hth', hlt⟩)
    · cases hmove
    · cases hmove
    · cases hth.symm.trans hth'
      exact hearly t rfl hlt

/-- Cancelling displaces the entry in place, rightfully only if its change was aborted. -/
lemma not_along_cancel {w : World} {n : String} {e : SnapState} {a s : ℕ}
    (he : w.AcceptedEntry n e a s) {j : ℕ} {changeID : String}
    (hth : w.threads j = .cancelling n changeID) (hother : changeID ≠ e.changeID) :
    ¬ machine.Along KeepsAccepted w [(j, .cancel)] := by
  refine not_along_of_takes he (.cancelled _ _ hth) (.inl ?_) ?_
  · rw [StateTracker.cancelTrackingFor_eq, StateTracker.lookup_drop_self, he.1]
    exact fun hnone => by cases hnone
  · rintro (⟨-, hth'⟩ | ⟨_, _, _, hmove, -⟩ | ⟨_, _, _, hmove, -⟩)
    · cases hth.symm.trans hth'
      exact hother rfl
    · cases hmove
    · cases hmove

/-- Evaluating a record that shows the operation completed displaces the entry in place, rightfully
only if the record was fetched since. -/
lemma not_along_evaluate {w : World} {snap : Snap} {e : SnapState} {a s : ℕ}
    (he : w.AcceptedEntry snap.name e a s) {j fetchedAt : ℕ}
    (hth : w.threads j = .evaluating snap fetchedAt)
    (hdone : hasOperationCompleted e.status snap = true) (hstale : ¬ s < fetchedAt)
    (c : SnapdClient) : ¬ machine.Along KeepsAccepted w [(j, .evaluate c)] := by
  refine not_along_of_takes he (.evaluated _ _ _ hth) (.inl ?_) ?_
  · rw [StateTracker.state_of_completed (some c) he.1 hdone, StateTracker.lookup_drop_self, he.1]
    exact fun hnone => by cases hnone
  · rintro (⟨hmove, -⟩ | ⟨_, _, _, -, hth', -, hlt, -⟩ | ⟨_, _, _, hmove, -⟩)
    · cases hmove
    · cases hth.symm.trans hth'
      exact hstale hlt
    · cases hmove

/-- A thread that is not harmless to an entry in place can go on to displace it wrongly. -/
lemma exists_loss_of_harmful {w : World} {n : String} {e : SnapState} {a s : ℕ}
    (he : w.AcceptedEntry n e a s) (hnow : s < w.now) {j : ℕ}
    (hharm : ¬ Harmless n e a s (w.threads j)) : ∃ es, ¬ machine.Along KeepsAccepted w es := by
  have hgoes : ∀ th, (w.become j th).AcceptedEntry n e a s := fun th => he
  cases hth : w.threads j with
  | checking op snap changeID acceptedAt =>
      simp only [hth, Harmless, not_forall] at hharm
      obtain ⟨t, rfl, rfl, hpre, hdone, hearly⟩ := hharm
      have hrun : (w.tracker.isTrackedForRunningOperation snap).1 = false := by
        simp [StateTracker.isTracked_of_lookup he.1, hdone]
      refine ⟨[(j, .check), (j, .store)], fun h => ?_⟩
      refine not_along_store (hgoes _) (threads_become_self w j _) ?_ ?_
        (h _ (Takes.passed _ _ _ _ hth hpre hrun).next).2
      · intro hmark
        have hstored : w.now + 1 = s := congrArg Mark.storedAt hmark
        omega
      · rintro t' ht'
        cases ht'
        exact hearly
  | storing op name changeID acceptedAt =>
      simp only [hth, Harmless, not_forall] at hharm
      obtain ⟨t, rfl, rfl, hearly⟩ := hharm
      refine ⟨[(j, .store)], not_along_store he hth ?_ ?_⟩
      · intro hmark
        have hstored : w.now = s := congrArg Mark.storedAt hmark
        omega
      · rintro t' ht'
        cases ht'
        exact hearly
  | aborting name changeID =>
      simp only [hth, Harmless, not_forall] at hharm
      obtain ⟨rfl, hother⟩ := hharm
      refine ⟨[(j, .abort none), (j, .cancel)], fun h => ?_⟩
      exact not_along_cancel (hgoes _) (threads_become_self w j _) hother
        (h _ (Takes.aborted _ _ hth).next).2
  | cancelling name changeID =>
      simp only [hth, Harmless, not_forall] at hharm
      obtain ⟨rfl, hother⟩ := hharm
      exact ⟨_, not_along_cancel he hth hother⟩
  | evaluating snap fetchedAt =>
      simp only [hth, Harmless, not_forall] at hharm
      obtain ⟨rfl, hdone, hstale⟩ := hharm
      exact ⟨_, not_along_evaluate he hth hdone hstale (.knowing snap "")⟩
  | _ =>
      rw [hth] at hharm
      exact absurd trivial hharm

/-- A store that is not safe loses an entry of an accepted change wrongly, or can be followed by
such a loss. -/
lemma exists_loss_of_unsafe {w w' : World} {i : ℕ} {op : Operation} {name changeID : String}
    {acceptedAt : Option ℕ} (hth : w.threads i = .storing op name changeID acceptedAt)
    (hloses : ¬ w.StoresSafely (i, .store) w') :
    ∃ es, ¬ machine.Along KeepsAccepted w ((i, .store) :: es) := by
  have hs := (Takes.stored op name changeID acceptedAt hth).next
  have hcases : ¬ ((∀ t, acceptedAt = some t → ∀ j, j ≠ i →
      Harmless name { status := op.status, changeID := changeID } t w.now (w.threads j)) ∧
      (acceptedAt = none → ∀ e a s, ¬ w.AcceptedEntry name e a s)) := by
    refine fun hsafe => hloses fun op' name' changeID' acceptedAt' _ hth' => ?_
    cases hth.symm.trans hth'
    exact hsafe
  cases acceptedAt with
  | none =>
      -- a refused change is stored over the entry of an accepted one
      obtain ⟨e, a, s, he⟩ : ∃ e a s, w.AcceptedEntry name e a s := by
        by_contra hnone
        exact hcases ⟨fun t ht => (by cases ht), fun _ e a s he => hnone ⟨e, a, s, he⟩⟩
      refine ⟨[], not_along_store he hth ?_ fun t ht => by cases ht⟩
      exact fun hmark => by cases congrArg Mark.acceptedAt hmark
  | some t =>
      -- the change is stored, and another request does it harm
      obtain ⟨j, hj, hharm⟩ : ∃ j, j ≠ i ∧ ¬ Harmless name
          { status := op.status, changeID := changeID } t w.now (w.threads j) := by
        by_contra hnone
        refine hcases ⟨fun t' ht' j hj => ?_, fun h => by cases h⟩
        cases ht'
        by_contra hharm
        exact hnone ⟨j, hj, hharm⟩
      have he : (w.store i op name changeID (some t)).AcceptedEntry name
          { status := op.status, changeID := changeID } t w.now :=
        ⟨StateTracker.lookup_trackOperation_self _ _ _ _, marks_store_self _ _ _ _ _ _⟩
      have hthreads : (w.store i op name changeID (some t)).threads j = w.threads j :=
        threads_become_ne w .idle hj
      rw [← hthreads] at hharm
      obtain ⟨es, hes⟩ := exists_loss_of_harmful he (Nat.lt_succ_self _) hharm
      exact ⟨es, fun h => hes (h _ hs).2⟩

/-- **Concurrent requests.**  In every run in which operations are stored safely, the entry of a
change that snapd accepted is removed or replaced only by an abort of that change, by evaluating a
record that was fetched since and shows the operation completed, or by storing a change that snapd
accepted later.  And the condition is needed: a run after which a thread stores unsafely loses such
an entry in another way, at that store or in a continuation. -/
theorem accepted_entry_kept (es : List (ℕ × Move)) :
    (machine.Along StoresSafely init es → machine.Along KeepsAccepted init es) ∧
    ∀ w i op name changeID acceptedAt, machine.exec init es = some w →
      w.threads i = .storing op name changeID acceptedAt →
      ¬ w.StoresSafely (i, .store) (w.store i op name changeID acceptedAt) →
      ∃ es', ¬ machine.Along KeepsAccepted init (es ++ (i, .store) :: es') := by
  constructor
  · refine Machine.Along.of_invariant (I := Inv) ?_ ?_ inv_init
    · exact fun w ev w' hI hnext hsafe => hI.next hnext hsafe
    · exact fun w ev w' hI hnext hsafe => hI.keepsAccepted hnext hsafe
  · intro w i op name changeID acceptedAt hw hth hloses
    obtain ⟨es', hes'⟩ := exists_loss_of_unsafe hth hloses
    exact ⟨es', fun h => hes' ((Machine.along_append h).2 w hw)⟩

/-- `hello-world` with a status. -/
def withStatus (status : String) : Snap := { name := "hello-world", status }

/-- A `get` looks `hello-world` up while it is disabled.  The snap is enabled by other means, and a
request to disable it is served: change `1` is tracked. -/
def disabledMeanwhile : List (ℕ × Move) :=
  [(0, .arrive .get "hello-world"), (0, .lookup (some (withStatus "installed"))),
    (1, .arrive (.start .disable) "hello-world"), (1, .lookup (some (withStatus "active"))),
    (1, .call ("1", none)), (1, .check), (1, .store)]

/-- After `disabledMeanwhile` the `get` evaluates the record it has, and the entry of change `1` is
dropped. -/
theorem stale_record_drops_entry : ¬ ∀ es, machine.Along KeepsAccepted init es := by
  intro h
  have hlast := (h (disabledMeanwhile ++
    [(0, .evaluate (.knowing (withStatus "active") "1"))])).last (by decide) (by decide)
  have hright := hlast "hello-world" { status := .disabling, changeID := "1" } 4 6
    ⟨by decide, by decide⟩ (.inl (by decide))
  rcases hright with ⟨hmove, -⟩ | ⟨_, snap, fetchedAt, -, hth, -, hlt, -⟩ | ⟨_, _, _, hmove, -⟩
  · cases hmove
  · have hfetched : Thread.evaluating (withStatus "installed") 1 = .evaluating snap fetchedAt := hth
    cases hfetched
    exact absurd hlt (by decide)
  · cases hmove

end World

end Snapweb
