import Snapweb.Core.Machine
import Snapweb.StateTracker.History

/-!
# The expiry timers

`trackOperation` arms a timer for every entry it stores; two minutes later the timer takes the
lock and deletes *whatever* entry the snap has by then.  This file runs the tracker with its
timers and a clock, and asks when a timer removes only the entry it was armed for.

A run interleaves the calls of one client with the passing of time and the firing of timers.  A
timer fires at any moment from its due time on, also between the unlocked check of a `Track` call
and its locked write.  `births` is bookkeeping that the program does not have: it remembers for
each entry the timer that was armed with it.

* `expiry_removes_own_entry` — a timer removes only its own entry in every run in which no
  operation is stored for a snap that still has a timer pending; and the first time one is, the
  run can go on to a removal of the new entry by the old timer.
* `expiry_removes_later_entry` — such a run: the operation is cancelled, the snap is operated on
  again a minute later, and its entry is gone after one minute more.
-/

namespace Snapweb

/-- `trackerDuration`, two minutes in nanoseconds. -/
def trackerDuration : ℕ := 2 * 60 * 10 ^ 9

/-- An expiry timer: the goroutine that `trackOperation` starts. -/
structure Timer where
  id : ℕ
  name : String
  armedAt : ℕ
  deriving DecidableEq, Repr

/-- The tracker with its clock and its pending timers. -/
structure Clocked where
  tracker : StateTracker
  now : ℕ
  timers : List Timer
  /-- The next timer's id. -/
  nextID : ℕ
  /-- A `Track` call that has checked and not yet written: operation, change, snap name. -/
  approved : Option (Operation × String × String)
  /-- Bookkeeping: the timer that was armed with the current entry for a name. -/
  births : String → Option Timer

/-- What can happen: a call (of a `Track` method, its check), the write of a `Track` call, time
passing, a timer firing. -/
inductive ClockEvent
  | call (c : Call)
  | write
  | wait (d : ℕ)
  | fire (τ : Timer)

namespace Clocked

/-- A new tracker at time zero. -/
def init : Clocked :=
  { tracker := .new, now := 0, timers := [], nextID := 0, approved := none, births := fun _ => none }

/-- The tracker changed, and only entries that are still there keep their birth. -/
def keep (s : Clocked) (t : StateTracker) : Clocked :=
  { s with
    tracker := t
    births := fun n => if (t.lookup n).isSome then s.births n else none }

/-- The check of a `Track` call: is the operation going to be stored? -/
def checkTrack (s : Clocked) (op : Operation) (changeID : String) (snap : Snap) : Clocked :=
  if op.precondition snap && !(s.tracker.isTrackedForRunningOperation snap).1 then
    { s with approved := some (op, changeID, snap.name) }
  else s

/-- `trackOperation`: store the entry and arm its timer. -/
def store (s : Clocked) (op : Operation) (changeID name : String) : Clocked :=
  let τ : Timer := { id := s.nextID, name := name, armedAt := s.now }
  { s with
    tracker := s.tracker.trackOperation changeID name op.status
    timers := τ :: s.timers
    nextID := s.nextID + 1
    approved := none
    births := Function.update s.births name (some τ) }

/-- One step, where a timer is due `duration` after it was armed. -/
def next (duration : ℕ) (s : Clocked) : ClockEvent → Option Clocked
  | .call c =>
      match s.approved, c with
      | some _, _ => none
      | none, .track op changeID snap => some (s.checkTrack op changeID snap)
      | none, .cancel name => some (s.keep (s.tracker.cancelTrackingFor name))
      | none, .state client snap => some (s.keep (s.tracker.state client snap).2)
  | .write =>
      match s.approved with
      | none => none
      | some (op, changeID, name) => some (s.store op changeID name)
  | .wait d => some { s with now := s.now + d }
  | .fire τ =>
      if τ ∈ s.timers ∧ τ.armedAt + duration ≤ s.now then
        some ({ s with timers := s.timers.erase τ }.keep (s.tracker.drop τ.name))
      else none

/-- The tracker with its timers, as a machine. -/
def machine (duration : ℕ) : Machine Clocked ClockEvent := ⟨next duration⟩

/-- What one step can do, with what it takes to do it. -/
inductive Takes (duration : ℕ) (s : Clocked) : ClockEvent → Clocked → Prop
  | checked (op : Operation) (changeID : String) (snap : Snap) : s.approved = none →
      Takes duration s (.call (.track op changeID snap)) (s.checkTrack op changeID snap)
  | cancelled (name : String) : s.approved = none →
      Takes duration s (.call (.cancel name)) (s.keep (s.tracker.cancelTrackingFor name))
  | evaluated (client : Option SnapdClient) (snap : Snap) : s.approved = none →
      Takes duration s (.call (.state client snap)) (s.keep (s.tracker.state client snap).2)
  | written (op : Operation) (changeID name : String) : s.approved = some (op, changeID, name) →
      Takes duration s .write (s.store op changeID name)
  | waited (d : ℕ) : Takes duration s (.wait d) { s with now := s.now + d }
  | fired (τ : Timer) : τ ∈ s.timers → τ.armedAt + duration ≤ s.now →
      Takes duration s (.fire τ)
        ({ s with timers := s.timers.erase τ }.keep (s.tracker.drop τ.name))

/-- Every step is one of these. -/
lemma takes_of_next {duration : ℕ} {s s' : Clocked} {e : ClockEvent}
    (hs : (machine duration).next s e = some s') : s.Takes duration e s' := by
  cases e with
  | call c =>
      simp only [machine, Clocked.next] at hs
      rcases happ : s.approved with _ | running
      · cases c with
        | track op changeID snap =>
            simp only [happ, Option.some.injEq] at hs
            exact hs ▸ .checked op changeID snap happ
        | cancel name =>
            simp only [happ, Option.some.injEq] at hs
            exact hs ▸ .cancelled name happ
        | state client snap =>
            simp only [happ, Option.some.injEq] at hs
            exact hs ▸ .evaluated client snap happ
      · simp only [happ, reduceCtorEq] at hs
  | write =>
      simp only [machine, Clocked.next] at hs
      rcases happ : s.approved with _ | ⟨op, changeID, name⟩
      · simp only [happ, reduceCtorEq] at hs
      · simp only [happ, Option.some.injEq] at hs
        exact hs ▸ .written op changeID name happ
  | wait d =>
      cases hs
      exact .waited d
  | fire τ =>
      simp only [machine, Clocked.next, Option.ite_none_right_eq_some, Option.some.injEq] at hs
      obtain ⟨⟨hpending, hdue⟩, rfl⟩ := hs
      exact .fired τ hpending hdue

/-- A timer that fires removes an entry only if that very entry was stored when the timer was
armed, hence at least `duration` ago. -/
def RemovesOwnEntry (duration : ℕ) (s : Clocked) : ClockEvent → Clocked → Prop
  | .fire τ, _ => ∀ e, s.tracker.lookup τ.name = some e →
      s.births τ.name = some τ ∧ τ.armedAt + duration ≤ s.now
  | _, _ => True

/-- An operation is stored only for a snap that has no timer pending. -/
def NoTimerPending (s : Clocked) : ClockEvent → Clocked → Prop
  | .write, _ => ∀ op changeID name, s.approved = some (op, changeID, name) →
      ∀ τ ∈ s.timers, τ.name ≠ name
  | _, _ => True

/-! ## The invariants -/

/-- Every entry has a birth, and the only timer that can be pending for its name is its own. -/
structure OwnTimers (s : Clocked) : Prop where
  born : ∀ n e, s.tracker.lookup n = some e → ∃ τ, s.births n = some τ
  own : ∀ n b, s.births n = some b → ∀ τ ∈ s.timers, τ.name = n → τ = b

/-- Timer ids are handed out in order. -/
def FreshID (s : Clocked) : Prop := ∀ τ ∈ s.timers, τ.id < s.nextID

lemma ownTimers_init : OwnTimers init where
  born n e he := by simp [init] at he
  own n b hb := by simp [init] at hb

/-- Dropping entries and timers keeps the invariant. -/
lemma OwnTimers.keep {s s' : Clocked} {t : StateTracker} (h : OwnTimers s)
    (hb : s'.births = s.births) (hts : ∀ τ ∈ s'.timers, τ ∈ s.timers)
    (ht : ∀ n e, t.lookup n = some e → s.tracker.lookup n = some e) : OwnTimers (s'.keep t) where
  born n e he := by
    obtain ⟨τ, hτ⟩ := h.born n e (ht n e he)
    have he' : t.lookup n = some e := he
    exact ⟨τ, by simp only [Clocked.keep, he', Option.isSome_some, if_true, hb, hτ]⟩
  own n b hnb τ hτ hname := by
    simp only [Clocked.keep, hb] at hnb
    split_ifs at hnb
    exact h.own n b hnb τ (hts τ hτ) hname

lemma births_store_self (s : Clocked) (op : Operation) (changeID name : String) :
    (s.store op changeID name).births name
      = some { id := s.nextID, name := name, armedAt := s.now } :=
  Function.update_self _ _ _

lemma births_store_ne (s : Clocked) (op : Operation) (changeID : String) {name n : String}
    (h : n ≠ name) : (s.store op changeID name).births n = s.births n :=
  Function.update_of_ne h _ _

/-- Storing an entry keeps the invariant if the snap has no timer pending: the one that is armed
is then the only one. -/
lemma OwnTimers.store {s : Clocked} (h : OwnTimers s) (op : Operation) (changeID : String)
    {name : String} (hno : ∀ τ ∈ s.timers, τ.name ≠ name) :
    OwnTimers (s.store op changeID name) where
  born n e he := by
    by_cases hn : n = name
    · rw [hn]
      exact ⟨_, births_store_self s op changeID name⟩
    · rw [births_store_ne s op changeID hn]
      have hlookup := StateTracker.lookup_trackOperation_ne s.tracker changeID op.status hn
      exact h.born n e (hlookup.symm.trans he)
  own n b hb τ hτ hname := by
    by_cases hn : n = name
    · subst hn
      rw [births_store_self, Option.some_inj] at hb
      rcases List.mem_cons.mp hτ with rfl | hτ
      · exact hb
      · exact absurd hname (hno τ hτ)
    · rw [births_store_ne s op changeID hn] at hb
      rcases List.mem_cons.mp hτ with rfl | hτ
      · exact absurd hname.symm hn
      · exact h.own n b hb τ hτ hname

/-- One step keeps the invariant, if it stores nothing for a snap with a timer pending. -/
lemma OwnTimers.next {duration : ℕ} {s s' : Clocked} {e : ClockEvent} (h : OwnTimers s)
    (hs : (machine duration).next s e = some s') (hno : NoTimerPending s e s') : OwnTimers s' := by
  cases takes_of_next hs with
  | checked =>
      rw [checkTrack]
      split_ifs
      · exact ⟨h.born, h.own⟩
      · exact h
  | cancelled =>
      rw [StateTracker.cancelTrackingFor_eq]
      exact h.keep rfl (fun τ hτ => hτ) fun n e => StateTracker.lookup_of_lookup_drop
  | evaluated => exact h.keep rfl (fun τ hτ => hτ) fun n e => StateTracker.lookup_of_lookup_state
  | written op changeID name happ => exact h.store op changeID (hno op changeID name happ)
  | waited => exact ⟨h.born, h.own⟩
  | fired =>
      exact h.keep rfl (fun _ => List.mem_of_mem_erase) fun n e => StateTracker.lookup_of_lookup_drop

/-- A timer that fires where the invariant holds finds its own entry, or none. -/
lemma OwnTimers.removesOwnEntry {duration : ℕ} {s s' : Clocked} {e : ClockEvent} (h : OwnTimers s)
    (hs : (machine duration).next s e = some s') : RemovesOwnEntry duration s e s' := by
  cases takes_of_next hs with
  | fired τ hpending hdue =>
      intro e he
      obtain ⟨b, hb⟩ := h.born τ.name e he
      obtain rfl := h.own τ.name b hb τ hpending rfl
      exact ⟨hb, hdue⟩
  | _ => trivial

lemma FreshID.next {duration : ℕ} {s s' : Clocked} {e : ClockEvent} (h : FreshID s)
    (hs : (machine duration).next s e = some s') : FreshID s' := by
  cases takes_of_next hs with
  | checked =>
      rw [checkTrack]
      split_ifs <;> exact h
  | written =>
      intro τ hτ
      rcases List.mem_cons.mp hτ with rfl | hτ
      · exact Nat.lt_succ_self _
      · exact Nat.lt_succ_of_lt (h τ hτ)
  | fired => exact fun τ hτ => h τ (List.mem_of_mem_erase hτ)
  | _ => exact h

/-! ## When a timer removes its own entry only -/

/-- An operation is stored for a snap while an older timer is pending: the run can go on to the
moment that timer is due, and the timer removes the new entry. -/
lemma not_along_of_pending {duration : ℕ} {s : Clocked} (hfresh : FreshID s) {op : Operation}
    {changeID name : String} (happ : s.approved = some (op, changeID, name)) {τ : Timer}
    (hτ : τ ∈ s.timers) (hname : τ.name = name) :
    ¬ (machine duration).Along (RemovesOwnEntry duration) s
      [.write, .wait (τ.armedAt + duration - s.now), .fire τ] := by
  intro h
  subst hname
  obtain ⟨-, h⟩ := h (s.store op changeID τ.name) (by simp [machine, Clocked.next, happ])
  obtain ⟨-, h⟩ := h _ rfl
  have hdue : τ.armedAt + duration ≤ s.now + (τ.armedAt + duration - s.now) := by omega
  obtain ⟨hown, -⟩ := h _ (if_pos ⟨List.mem_cons_of_mem _ hτ, hdue⟩)
  -- the entry in place is the new one, born with the timer that was armed last
  have hbirth : (s.store op changeID τ.name).births τ.name = some τ :=
    (hown _ (StateTracker.lookup_trackOperation_self s.tracker changeID τ.name op.status)).1
  rw [births_store_self, Option.some_inj] at hbirth
  have hid : s.nextID = τ.id := congrArg Timer.id hbirth
  exact absurd (hfresh τ hτ) (by omega)

/-- **Expiry.**  In every run in which operations are stored only for snaps without a pending
timer, a timer removes no entry but the one it was armed for, and that not before `duration` is
over.  And the condition is needed: from every state that a run can reach, storing an operation
for a snap with a pending timer can be continued to a removal of the new entry by the old timer. -/
theorem expiry_removes_own_entry (duration : ℕ) :
    (∀ es, (machine duration).Along NoTimerPending init es →
      (machine duration).Along (RemovesOwnEntry duration) init es) ∧
    ∀ s, (machine duration).Reaches init s →
      ∀ op changeID name, s.approved = some (op, changeID, name) →
        (∃ τ ∈ s.timers, τ.name = name) →
        ∃ es, ¬ (machine duration).Along (RemovesOwnEntry duration) s (.write :: es) := by
  refine ⟨fun es hes => ?_, fun s hs op changeID name happ ⟨τ, hτ, hname⟩ => ?_⟩
  · refine Machine.Along.of_invariant (I := OwnTimers) ?_ ?_ ownTimers_init hes
    · exact fun s e s' hI hnext hno => hI.next hnext hno
    · exact fun s e s' hI hnext _ => hI.removesOwnEntry hnext
  · have hfresh : FreshID s :=
      hs.invariant (fun _ _ _ h hnext => h.next hnext) (fun τ hτ => by simp [init] at hτ)
    exact ⟨_, not_along_of_pending hfresh happ hτ hname⟩

/-- A snap that is not installed. -/
def notInstalled : Snap := { name := "hello-world", status := clientStatusAvailable }

/-- An installation is tracked and cancelled; a minute later the snap is installed again, and one
minute after that the first timer is due. -/
def cancelledAndRetried : List ClockEvent :=
  [.call (.track .install "1" notInstalled), .write, .call (.cancel "hello-world"),
    .wait (trackerDuration / 2), .call (.track .install "2" notInstalled), .write,
    .wait (trackerDuration / 2)]

/-- The first timer of `cancelledAndRetried` removes the entry of the second installation, which
is one minute old. -/
theorem expiry_removes_later_entry :
    ¬ ∀ es, (machine trackerDuration).Along (RemovesOwnEntry trackerDuration) init es := by
  intro h
  have hlast := (h (cancelledAndRetried ++ [.fire ⟨0, "hello-world", 0⟩])).last
    (by decide) (by decide)
  have hbirth := (hlast { status := .installing, changeID := "2" } (by decide)).1
  exact absurd hbirth (by decide)

end Clocked

end Snapweb
