import Snapweb.StateTracker.StateTracker

/-!
# The tracker against its history

What is the tracker *for*?  The answer for a snap should be decided by the calls made so far: the
most recent `Track` call on the snap that was accepted is the operation that runs, until it is
cancelled or a record is seen that shows it completed.  This file states that as a specification
over call histories (`mostRecentAccepted`, `Accepted.isCurrent`), with no map in it, and proves
that the map of `statetracker.go` computes it.

Histories are lists of calls, newest first; a run of the tracker takes them oldest first.

* `lookup_replay` — the simulation: the entry for a name is the operation current in the history.
* `mostRecentAccepted_eq_some_iff` — the recursion that finds the most recent accepted call finds
  the split of the history at it.
* `state_refines_history` — what `State` answers, and what follows from it: independence of the
  calls on other names, stability under further `Track` calls, the list of names.
-/

namespace Snapweb

/-- A call of one of the tracker's methods. -/
inductive Call
  | track (op : Operation) (changeID : String) (snap : Snap)
  | cancel (name : String)
  | state (c : Option SnapdClient) (snap : Snap)

/-- The snap that a call names. -/
def Call.name : Call → String
  | track _ _ snap => snap.name
  | cancel name => name
  | state _ snap => snap.name

namespace StateTracker

/-- The tracker after a call. -/
def call (t : StateTracker) : Call → StateTracker
  | .track op changeID snap => trackMethod op t changeID snap
  | .cancel name => t.cancelTrackingFor name
  | .state c snap => (t.state c snap).2

/-- The tracker after a list of calls, the oldest first. -/
def run (calls : List Call) : StateTracker := calls.foldl call new

/-- The tracker after a history, the newest call first. -/
def replay : List Call → StateTracker
  | [] => new
  | c :: past => (replay past).call c

lemma run_eq_replay (calls : List Call) : run calls = replay calls.reverse := by
  have h : ∀ cs : List Call, replay cs = cs.foldr (fun c t => t.call c) new := by
    intro cs
    induction cs with
    | nil => rfl
    | cons c cs ih => rw [replay, ih, List.foldr_cons]
  rw [run, h, List.foldr_reverse]

lemma Reachable.run (calls : List Call) : Reachable (run calls) := by
  rw [run_eq_replay]
  induction calls.reverse with
  | nil => exact .new
  | cons c past ih =>
      cases c with
      | track op changeID snap => exact ih.track op changeID snap
      | cancel name => exact ih.cancel name
      | state c snap => exact ih.state c snap

end StateTracker

/-! ## The specification -/

/-- Does a call end an operation running on the snap `n`: cancel it, or show it completed? -/
def Call.ends (n : String) (running : Status) : Call → Bool
  | track _ _ _ => false
  | cancel name => name == n
  | state _ snap => snap.name == n && hasOperationCompleted running snap

/-- An accepted `Track` call: its operation, its change, and the calls made since. -/
structure Accepted where
  op : Operation
  changeID : String
  since : List Call

/-- The operation is still current on `n`: no later call cancelled it or saw it completed. -/
def Accepted.isCurrent (n : String) (a : Accepted) : Bool :=
  a.since.all fun c => !c.ends n a.op.status

/-- The operation is current, and a record of its snap leaves it unfinished. -/
def Accepted.runs (snap : Snap) (a : Accepted) : Bool :=
  a.isCurrent snap.name && !hasOperationCompleted a.op.status snap

/-- A `Track` call is accepted iff the record meets the operation's precondition and the most
recent accepted operation on the snap is not one that is current and that the record leaves
unfinished. -/
def accepts (last : Option Accepted) (op : Operation) (snap : Snap) : Bool :=
  op.precondition snap &&
    match last with
    | none => true
    | some a => !a.isCurrent snap.name || hasOperationCompleted a.op.status snap

/-- The most recent accepted `Track` call on `n` in a history, newest call first. -/
def mostRecentAccepted (n : String) : List Call → Option Accepted
  | [] => none
  | c :: past =>
      let older := (mostRecentAccepted n past).map fun a => { a with since := c :: a.since }
      match c with
      | .track op changeID snap =>
          if snap.name = n ∧ accepts (mostRecentAccepted n past) op snap = true then
            some ⟨op, changeID, []⟩
          else older
      | _ => older

/-- The entry that a history asks for: that of the most recent accepted call, while current. -/
def currentEntry (n : String) (past : List Call) : Option SnapState :=
  match mostRecentAccepted n past with
  | none => none
  | some a =>
      if a.isCurrent n then some { status := a.op.status, changeID := a.changeID } else none

/-! ## The specification as a split of the history -/

/-- The call is a `Track` call on `n` that is accepted after `past`. -/
def AcceptedAfter (n : String) (past : List Call) : Call → Prop
  | .track op _ snap => snap.name = n ∧ accepts (mostRecentAccepted n past) op snap = true
  | _ => False

lemma acceptedAfter_track {n : String} {past : List Call} {op : Operation} {changeID : String}
    {snap : Snap} : AcceptedAfter n past (.track op changeID snap) ↔
      snap.name = n ∧ accepts (mostRecentAccepted n past) op snap = true :=
  Iff.rfl

lemma mostRecentAccepted_cons_of_not {n : String} {c : Call} {past : List Call}
    (h : ¬ AcceptedAfter n past c) :
    mostRecentAccepted n (c :: past)
      = (mostRecentAccepted n past).map fun a => { a with since := c :: a.since } := by
  cases c with
  | track op changeID snap => exact if_neg h
  | cancel name => rfl
  | state c snap => rfl

/-- The history has the accepted call `a`, and none is accepted on the name since. -/
def SplitsAt (n : String) (calls : List Call) (a : Accepted) : Prop :=
  ∃ snap past, calls = a.since ++ .track a.op a.changeID snap :: past ∧
    AcceptedAfter n past (.track a.op a.changeID snap) ∧
    ∀ newer c older, a.since = newer ++ c :: older →
      ¬ AcceptedAfter n (older ++ .track a.op a.changeID snap :: past) c

/-- If the newest call is accepted, nothing was called since. -/
lemma splitsAt_cons_of_accepted {n : String} {op : Operation} {changeID : String} {snap : Snap}
    {calls : List Call} {a : Accepted} (h : AcceptedAfter n calls (.track op changeID snap)) :
    SplitsAt n (.track op changeID snap :: calls) a ↔ a = ⟨op, changeID, []⟩ := by
  obtain ⟨op', id', since⟩ := a
  constructor
  · rintro ⟨snap', past, hsplit, -, hnone⟩
    cases since with
    | nil =>
        injection hsplit with hhead
        injection hhead with hop hid
        rw [hop, hid]
    | cons c since =>
        injection hsplit with hhead htail
        subst hhead htail
        exact absurd h (hnone [] _ since rfl)
  · intro heq
    injection heq with hop hid hsince
    subst hop hid hsince
    exact ⟨snap, calls, rfl, h, fun newer c older h => by simp at h⟩

/-- If it is not, it is one of the calls since. -/
lemma splitsAt_cons_of_not {n : String} {c : Call} {calls : List Call} {a : Accepted}
    (h : ¬ AcceptedAfter n calls c) :
    SplitsAt n (c :: calls) a ↔ ∃ b, SplitsAt n calls b ∧ { b with since := c :: b.since } = a := by
  constructor
  · rintro ⟨snap, past, hsplit, hacc, hnone⟩
    obtain ⟨op, id, since⟩ := a
    cases since with
    | nil =>
        injection hsplit with hhead htail
        subst hhead htail
        exact absurd hacc h
    | cons c' since =>
        injection hsplit with hhead htail
        subst hhead
        refine ⟨⟨op, id, since⟩, ⟨snap, past, htail, hacc, ?_⟩, rfl⟩
        intro newer c' older hsince
        exact hnone (c :: newer) c' older (congrArg (c :: ·) hsince)
  · rintro ⟨b, ⟨snap, past, hsplit, hacc, hnone⟩, rfl⟩
    refine ⟨snap, past, by rw [hsplit, List.cons_append], hacc, ?_⟩
    intro newer c' older hsince
    cases newer with
    | nil =>
        injection hsince with hhead htail
        subst hhead htail
        rwa [← hsplit]
    | cons c'' newer =>
        injection hsince with _ htail
        exact hnone newer c' older htail

/-- **The most recent accepted call.**  It splits the history in the calls made since, none of
which is itself an accepted `Track` call on the name, and the history it was accepted in. -/
theorem mostRecentAccepted_eq_some_iff (n : String) (calls : List Call) (a : Accepted) :
    mostRecentAccepted n calls = some a ↔ SplitsAt n calls a := by
  induction calls generalizing a with
  | nil => simp [mostRecentAccepted, SplitsAt]
  | cons c calls ih =>
      by_cases hc : AcceptedAfter n calls c
      · cases c with
        | track op changeID snap =>
            have hsome : mostRecentAccepted n (.track op changeID snap :: calls)
                = some ⟨op, changeID, []⟩ := if_pos hc
            rw [hsome, Option.some_inj, splitsAt_cons_of_accepted hc, eq_comm]
        | cancel name => exact hc.elim
        | state c snap => exact hc.elim
      · rw [mostRecentAccepted_cons_of_not hc, Option.map_eq_some_iff, splitsAt_cons_of_not hc]
        simp only [ih]

/-! ## The simulation -/

/-- A call that is not accepted ends the current operation or leaves it alone. -/
lemma currentEntry_cons_of_not {n : String} {c : Call} {past : List Call}
    (h : ¬ AcceptedAfter n past c) :
    currentEntry n (c :: past) = (currentEntry n past).filter fun e => !c.ends n e.status := by
  rw [currentEntry, mostRecentAccepted_cons_of_not h, currentEntry]
  cases mostRecentAccepted n past with
  | none => rfl
  | some a =>
      have hcur : ({ a with since := c :: a.since } : Accepted).isCurrent n
          = (!c.ends n a.op.status && a.isCurrent n) := rfl
      simp only [Option.map_some, hcur]
      cases a.isCurrent n <;> cases hc : c.ends n a.op.status <;> simp [Option.filter, hc]

lemma currentEntry_cons_of_accepted {n : String} {op : Operation} {changeID : String} {snap : Snap}
    {past : List Call} (h : AcceptedAfter n past (.track op changeID snap)) :
    currentEntry n (.track op changeID snap :: past)
      = some { status := op.status, changeID := changeID } := by
  have hsome : mostRecentAccepted n (.track op changeID snap :: past)
      = some ⟨op, changeID, []⟩ := if_pos h
  rw [currentEntry, hsome]
  rfl

/-- The specification accepts what the `Track` methods accept, once the entries agree. -/
lemma accepts_eq {t : StateTracker} {past : List Call} {snap : Snap} (op : Operation)
    (h : t.lookup snap.name = currentEntry snap.name past) :
    accepts (mostRecentAccepted snap.name past) op snap
      = (op.precondition snap && !(t.isTrackedForRunningOperation snap).1) := by
  simp only [accepts, StateTracker.isTrackedForRunningOperation, h, currentEntry]
  cases mostRecentAccepted snap.name past with
  | none => rfl
  | some a => cases hcur : a.isCurrent snap.name <;> simp [hcur]

namespace StateTracker

/-- A cancellation takes the entry of its name away. -/
lemma lookup_cancelTrackingFor (t : StateTracker) (name n : String) :
    (t.cancelTrackingFor name).lookup n
      = (t.lookup n).filter fun e => !(Call.cancel name).ends n e.status := by
  rw [cancelTrackingFor_eq]
  by_cases hn : n = name
  · subst hn
    rw [lookup_drop_self]
    cases t.lookup n <;> simp [Option.filter, Call.ends]
  · rw [lookup_drop_ne _ hn]
    cases t.lookup n <;> simp [Option.filter, Call.ends, Ne.symm hn]

/-- A record takes the entry of its snap away if it shows the operation completed. -/
lemma lookup_state (t : StateTracker) (c : Option SnapdClient) (snap : Snap) (n : String) :
    (t.state c snap).2.lookup n
      = (t.lookup n).filter fun e => !(Call.state c snap).ends n e.status := by
  by_cases hn : n = snap.name
  · subst hn
    rcases he : t.lookup snap.name with _ | e
    · rw [state_of_untracked c he, he]
      rfl
    · by_cases hdone : hasOperationCompleted e.status snap = true
      · rw [state_of_completed c he hdone, lookup_drop_self]
        simp [Option.filter, Call.ends, hdone]
      · rw [(state_of_running c he (by simpa using hdone)).2.2, he]
        simp [Option.filter, Call.ends, hdone]
  · have hkeep : (t.state c snap).2.lookup n = t.lookup n := by
      rcases state_snd t c snap with heq | ⟨-, heq⟩ <;> rw [heq]
      exact lookup_drop_ne _ hn
    rw [hkeep]
    cases t.lookup n <;> simp [Option.filter, Call.ends, Ne.symm hn]

/-- A `Track` call, where the entries before it are those that the history asks for. -/
lemma lookup_trackMethod {t : StateTracker} {past : List Call}
    (h : ∀ n, t.lookup n = currentEntry n past) (op : Operation) (changeID : String) (snap : Snap)
    (n : String) : (trackMethod op t changeID snap).lookup n
      = currentEntry n (.track op changeID snap :: past) := by
  have hacc := accepts_eq op (h snap.name)
  have hkept : ¬ AcceptedAfter n past (.track op changeID snap) →
      currentEntry n (.track op changeID snap :: past) = t.lookup n := by
    intro hnot
    rw [currentEntry_cons_of_not hnot, h]
    cases currentEntry n past <;> rfl
  rw [trackMethod_eq]
  by_cases hrun : op.precondition snap = true ∧ (t.isTrackedForRunningOperation snap).1 = false
  · rw [track_of_accepted hrun.1 hrun.2]
    by_cases hn : n = snap.name
    · subst hn
      rw [lookup_trackOperation_self, currentEntry_cons_of_accepted]
      exact ⟨rfl, by rw [hacc, hrun.1, hrun.2]; rfl⟩
    · rw [lookup_trackOperation_ne _ _ _ hn,
        hkept fun hafter => hn (acceptedAfter_track.mp hafter).1.symm]
  · rw [track_of_not_accepted (fun hp => by simpa [hp] using hrun), hkept]
    rintro ⟨rfl, haccepts⟩
    rw [hacc] at haccepts
    exact hrun (by simpa using haccepts)

/-- **The simulation.**  The entry for a name is the operation that the history has current. -/
theorem lookup_replay (past : List Call) (n : String) :
    (replay past).lookup n = currentEntry n past := by
  induction past generalizing n with
  | nil => exact lookup_new n
  | cons c past ih =>
      cases c with
      | track op changeID snap => exact lookup_trackMethod ih op changeID snap n
      | cancel name => rw [replay, call, lookup_cancelTrackingFor, currentEntry_cons_of_not id, ih]
      | state c snap => rw [replay, call, lookup_state, currentEntry_cons_of_not id, ih]

/-- The simulation, for a run. -/
lemma lookup_run (calls : List Call) (n : String) :
    (run calls).lookup n = currentEntry n calls.reverse := by
  rw [run_eq_replay, lookup_replay]

/-! ## Only the calls on a name matter to it -/

/-- A call leaves the entries of other names alone. -/
lemma lookup_call_of_ne {t : StateTracker} {c : Call} {n : String} (h : c.name ≠ n) :
    (t.call c).lookup n = t.lookup n := by
  have hn : n ≠ c.name := Ne.symm h
  cases c with
  | track op changeID snap =>
      rw [call, trackMethod_eq]
      by_cases hacc : op.precondition snap = true → (t.isTrackedForRunningOperation snap).1 = true
      · rw [track_of_not_accepted hacc]
      · push Not at hacc
        rw [track_of_accepted hacc.1 (by simpa using hacc.2)]
        exact lookup_trackOperation_ne t changeID _ hn
  | cancel name =>
      rw [call, cancelTrackingFor_eq]
      exact lookup_drop_ne t hn
  | state c snap =>
      rcases state_snd t c snap with heq | ⟨-, heq⟩ <;> rw [call, heq]
      exact lookup_drop_ne t hn

lemma isTracked_congr {t u : StateTracker} {snap : Snap} (h : t.lookup snap.name = u.lookup snap.name) :
    t.isTrackedForRunningOperation snap = u.isTrackedForRunningOperation snap := by
  rw [isTrackedForRunningOperation, h, isTrackedForRunningOperation]

/-- What `State` answers depends on the entry for the snap only. -/
lemma state_fst_congr {t u : StateTracker} (c : Option SnapdClient) {snap : Snap}
    (h : t.lookup snap.name = u.lookup snap.name) : (t.state c snap).1 = (u.state c snap).1 := by
  rw [state, state, h, isTracked_congr h]
  cases u.lookup snap.name with
  | none => rfl
  | some e => dsimp only; split_ifs <;> rfl

/-- What a call does to the entry for its name depends on that entry only. -/
lemma lookup_call_congr {t u : StateTracker} {c : Call} (h : t.lookup c.name = u.lookup c.name) :
    (t.call c).lookup c.name = (u.call c).lookup c.name := by
  cases c with
  | track op changeID snap =>
      simp only [call, trackMethod_eq, track, isTracked_congr h]
      split_ifs
      · exact h
      · exact h
      · simp only [Call.name, lookup_trackOperation_self]
  | cancel name => rw [call, call, lookup_cancelTrackingFor, lookup_cancelTrackingFor, h]
  | state c snap => rw [call, call, lookup_state, lookup_state, h]

lemma lookup_replay_filter (past : List Call) (n : String) :
    (replay past).lookup n = (replay (past.filter fun c => c.name = n)).lookup n := by
  induction past with
  | nil => rfl
  | cons c past ih =>
      by_cases hc : c.name = n
      · rw [List.filter_cons_of_pos (by simpa using hc), replay, replay]
        subst hc
        exact lookup_call_congr ih
      · rw [List.filter_cons_of_neg (by simpa using hc), replay, lookup_call_of_ne hc, ih]

lemma lookup_run_filter (calls : List Call) (n : String) :
    (run calls).lookup n = (run (calls.filter fun c => c.name = n)).lookup n := by
  rw [run_eq_replay, run_eq_replay, lookup_replay_filter, List.filter_reverse]

/-! ## Further `Track` calls on a running operation -/

/-- A `Track` call whose record leaves the operation on its snap unfinished changes nothing. -/
lemma call_track_of_running {t : StateTracker} {op : Operation} {changeID : String} {snap : Snap}
    {e : SnapState} (he : t.lookup snap.name = some e)
    (hrun : hasOperationCompleted e.status snap = false) :
    t.call (.track op changeID snap) = t := by
  rw [call, trackMethod_eq]
  exact track_of_not_accepted fun _ => (isTracked_fst t snap).mpr ⟨e, he, hrun⟩

/-- A running operation keeps its entry through any `Track` calls: on its own snap they are
ignored while the records show it unfinished, on other snaps they do not concern it. -/
lemma lookup_foldl_track {t : StateTracker} {n : String} {e : SnapState} (he : t.lookup n = some e)
    (tracks : List (Operation × String × Snap))
    (hrun : ∀ x ∈ tracks, x.2.2.name = n → hasOperationCompleted e.status x.2.2 = false) :
    ((tracks.map fun x => Call.track x.1 x.2.1 x.2.2).foldl call t).lookup n = some e := by
  induction tracks generalizing t with
  | nil => exact he
  | cons x tracks ih =>
      simp only [List.map_cons, List.foldl_cons]
      refine ih ?_ fun y hy => hrun y (List.mem_cons_of_mem x hy)
      by_cases hn : x.2.2.name = n
      · subst hn
        rw [call_track_of_running he (hrun x List.mem_cons_self rfl)]
        exact he
      · rw [lookup_call_of_ne (c := .track x.1 x.2.1 x.2.2) hn]
        exact he

/-! ## What `State` answers -/

/-- `State` against the current entry, as the history has it. -/
lemma state_of_currentEntry {t : StateTracker} {past : List Call} (c : Option SnapdClient)
    {snap : Snap} (h : t.lookup snap.name = currentEntry snap.name past) :
    (∀ a, mostRecentAccepted snap.name past = some a →
      ((t.state c snap).1.status = a.op.status ∧ (t.state c snap).1.changeID = a.changeID ↔
        a.runs snap = true)) ∧
    ((∀ a, mostRecentAccepted snap.name past = some a → a.runs snap = false) →
      (t.state c snap).1 = { status := translateStatus snap }) := by
  rw [currentEntry] at h
  rcases hlast : mostRecentAccepted snap.name past with _ | a
  · rw [hlast] at h
    refine ⟨fun a ha => by simp at ha, fun _ => by rw [state_of_untracked c h]⟩
  · simp only [hlast] at h
    by_cases hcur : a.isCurrent snap.name = true
    · rw [if_pos hcur] at h
      by_cases hdone : hasOperationCompleted a.op.status snap = true
      · have hruns : a.runs snap = false := by simp [Accepted.runs, hdone]
        rw [state_of_completed c h hdone]
        refine ⟨fun b hb => ?_, fun _ => rfl⟩
        cases hb
        simp [hruns, Ne.symm (a.op.status_ne_translateStatus snap)]
      · have hrun : hasOperationCompleted a.op.status snap = false := by simpa using hdone
        have hruns : a.runs snap = true := by simp [Accepted.runs, hcur, hrun]
        obtain ⟨hstatus, hid, -⟩ := state_of_running c h hrun
        refine ⟨fun b hb => ?_, fun hno => ?_⟩
        · cases hb
          exact iff_of_true ⟨hstatus, hid⟩ hruns
        · rw [hno a rfl] at hruns
          cases hruns
    · rw [if_neg hcur] at h
      have hruns : a.runs snap = false := by simp [Accepted.runs, hcur]
      rw [state_of_untracked c h]
      refine ⟨fun b hb => ?_, fun _ => rfl⟩
      cases hb
      simp [hruns, Ne.symm (a.op.status_ne_translateStatus snap)]

/-- **The tracker refines its history.**  After any calls, and for any record of a snap:

* `State` gives the status and the change of the most recent accepted `Track` call on the snap
  exactly while that operation is current and the record leaves it unfinished, and otherwise what
  snapd says of the snap;
* the answer is the one that the calls naming the snap alone would give;
* a running operation keeps its status and change whatever `Track` calls are made, as long as
  their records of the snap leave it unfinished too;
* the names tracked are those with a current operation, each of them once, in whichever order the
  map is ranged over;
* the most recent accepted call is the one that splits the history so that no accepted `Track` call on
  the name comes after it. -/
theorem state_refines_history (calls : List Call) :
    (∀ (c : Option SnapdClient) (snap : Snap),
      (∀ a, mostRecentAccepted snap.name calls.reverse = some a →
        (((run calls).state c snap).1.status = a.op.status ∧
            ((run calls).state c snap).1.changeID = a.changeID ↔ a.runs snap = true)) ∧
      ((∀ a, mostRecentAccepted snap.name calls.reverse = some a → a.runs snap = false) →
        ((run calls).state c snap).1 = { status := translateStatus snap })) ∧
    (∀ (c : Option SnapdClient) (snap : Snap),
      ((run calls).state c snap).1
        = ((run (calls.filter fun call => call.name = snap.name)).state c snap).1) ∧
    (∀ (n : String) (a : Accepted), mostRecentAccepted n calls.reverse = some a →
      a.isCurrent n = true →
      ∀ tracks : List (Operation × String × Snap),
        (∀ x ∈ tracks, x.2.2.name = n → hasOperationCompleted a.op.status x.2.2 = false) →
        ∀ (c : Option SnapdClient) (snap : Snap), snap.name = n →
          hasOperationCompleted a.op.status snap = false →
          ((run (calls ++ tracks.map fun x => Call.track x.1 x.2.1 x.2.2)).state c snap).1.status
              = a.op.status ∧
            ((run (calls ++ tracks.map fun x => Call.track x.1 x.2.1 x.2.2)).state c snap).1.changeID
              = a.changeID) ∧
    (∀ ks, (run calls).RangeOrder ks →
      (allTrackedSnaps ks).Nodup ∧
      ∀ n, n ∈ allTrackedSnaps ks ↔
        ∃ a, mostRecentAccepted n calls.reverse = some a ∧ a.isCurrent n = true) ∧
    ∀ (n : String) (a : Accepted),
      mostRecentAccepted n calls.reverse = some a ↔ SplitsAt n calls.reverse a := by
  refine ⟨fun c snap => state_of_currentEntry c (lookup_run calls snap.name),
    fun c snap => state_fst_congr c (lookup_run_filter calls snap.name), ?_, ?_,
    fun n => mostRecentAccepted_eq_some_iff n calls.reverse⟩
  · intro n a ha hcur tracks htracks c snap hname hrun
    subst hname
    have he : (run calls).lookup snap.name = some { status := a.op.status, changeID := a.changeID } := by
      rw [lookup_run, currentEntry, ha]
      exact if_pos hcur
    have hkept := lookup_foldl_track he tracks htracks
    rw [run, List.foldl_append]
    obtain ⟨hstatus, hid, -⟩ := state_of_running c hkept hrun
    exact ⟨hstatus, hid⟩
  · intro ks hks
    rw [allTrackedSnaps_eq]
    refine ⟨nodup_of_rangeOrder hks, fun n => ?_⟩
    rw [mem_of_rangeOrder hks, lookup_run, currentEntry]
    cases mostRecentAccepted n calls.reverse with
    | none => simp
    | some a => cases hcur : a.isCurrent n <;> simp [hcur]

end StateTracker

end Snapweb
