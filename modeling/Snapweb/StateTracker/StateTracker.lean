import Mathlib.Tactic.SplitIfs
import Mathlib.Tactic.Push
import Snapweb.Snapd.Client

/-!
# The state tracker

`statetracker.go`: a map from snap names to the operation that snapweb last started on the snap
and has not seen complete.  `State` reads it for a record that snapd gave, and drops the entry
when the record shows the operation completed; the four `Track` methods store entries;
`CancelTrackingFor` drops one.

The methods take the tracker and return it, which is what they do under the tracker's lock.  A
`Track` method checks *before* it takes the lock (`isTrackedForRunningOperation`) and writes
under it (`trackOperation`); the two halves are separate functions here, so that a model of
concurrent calls can take them apart.  The timer that `trackOperation` arms is in `Expiry.lean`.
-/

namespace Snapweb

/-- The states of a snap that snapweb tells its users. -/
inductive Status
  | priced
  | installed
  | active
  | uninstalled
  | installing
  | uninstalling
  | enabling
  | disabling
  deriving DecidableEq, Repr

/-- The text of a status, which is what it is in the source. -/
def Status.text : Status → String
  | .priced => "priced"
  | .installed => "installed"
  | .active => "active"
  | .uninstalled => "uninstalled"
  | .installing => "installing"
  | .uninstalling => "uninstalling"
  | .enabling => "enabling"
  | .disabling => "disabling"

/-- The tracked state of a snap. -/
structure SnapState where
  status : Status
  changeID : String := ""
  localSize : UInt64 := 0
  taskSummary : String := ""
  deriving DecidableEq, Repr

/-- The tracked states, by snap name. -/
abbrev SnapStatePerID := Finmap fun _ : String => SnapState

/-- The tracker: the states, guarded by a lock that has no content here. -/
@[ext]
structure StateTracker where
  states : SnapStatePerID

/-- A record shows its snap installed, enabled or not. -/
def isInstalled (s : Snap) : Bool :=
  s.status == clientStatusInstalled || s.status == clientStatusActive

/-- Translate a status from the snappy world into one the pages understand. -/
def translateStatus (s : Snap) : Status :=
  if s.status = clientStatusInstalled then .installed
  else if s.status = clientStatusActive then .active
  else if s.status = "priced" then .priced
  else .uninstalled

/-- Has the tracked process denoted by the status completed, as the record tells? -/
def hasOperationCompleted (s : Status) (snap : Snap) : Bool :=
  match s with
  | .installing => isInstalled snap
  | .enabling => snap.status == clientStatusActive
  | .disabling => snap.status == clientStatusInstalled
  | _ => !isInstalled snap

/-- The loop of `State` over the tasks of a change: sizes are collected up to the first task that
is being done, whose summary is kept. -/
def scanTasks (cstate : SnapState) : List Task → SnapState
  | [] => cstate
  | task :: rest =>
      let size := task.progress.done.toUInt64
      let sized := if 1 < size then { cstate with localSize := size } else cstate
      if task.status ≠ doingStatus then scanTasks sized rest
      else { sized with taskSummary := task.summary }

namespace StateTracker

/-- A new tracker. -/
def new : StateTracker := ⟨∅⟩

/-- The entry for a snap name. -/
def lookup (t : StateTracker) (name : String) : Option SnapState := t.states.lookup name

/-- Is the snap concerned by a running operation, and by which change? -/
def isTrackedForRunningOperation (t : StateTracker) (snap : Snap) : Bool × String :=
  match t.lookup snap.name with
  | none => (false, "")
  | some state => (!hasOperationCompleted state.status snap, state.changeID)

/-- The locked half of a `Track` method. -/
def trackOperation (t : StateTracker) (changeID name : String) (operation : Status) :
    StateTracker :=
  ⟨t.states.insert name { status := operation, changeID := changeID }⟩

/-- What the four `Track` methods have in common: nothing happens to a snap that does not meet the
operation's precondition, nor to one with an operation that its record leaves unfinished. -/
def track (precondition : Snap → Bool) (operation : Status) (t : StateTracker)
    (changeID : String) (snap : Snap) : StateTracker :=
  if !precondition snap then t
  else if (t.isTrackedForRunningOperation snap).1 then t
  else t.trackOperation changeID snap.name operation

/-- Track the installation of the given snap. -/
def trackInstall : StateTracker → String → Snap → StateTracker :=
  track (fun snap => !isInstalled snap) .installing

/-- Track the removal of the given snap. -/
def trackUninstall : StateTracker → String → Snap → StateTracker :=
  track isInstalled .uninstalling

/-- Track the enabling of the given snap. -/
def trackEnable : StateTracker → String → Snap → StateTracker :=
  track isInstalled .enabling

/-- Track the disabling of the given snap. -/
def trackDisable : StateTracker → String → Snap → StateTracker :=
  track isInstalled .disabling

/-- Drop the entry for a snap name, if there is one. -/
def cancelTrackingFor (t : StateTracker) (snapName : String) : StateTracker :=
  match t.lookup snapName with
  | none => t
  | some _ => ⟨t.states.erase snapName⟩

/-- The state of the given snap, and the tracker after the call: an operation that the record
shows completed is dropped.  The client is `none` where the source passes `nil`. -/
def state (t : StateTracker) (c : Option SnapdClient) (snap : Snap) : SnapState × StateTracker :=
  match t.lookup snap.name with
  | none => ({ status := translateStatus snap }, t)
  | some entry =>
      let cstate :=
        match t.isTrackedForRunningOperation snap, c with
        | (true, changeID), some client =>
            match client.change changeID with
            | .ok (some change) => scanTasks entry change.tasks
            | _ => entry
        | _, _ => entry
      if hasOperationCompleted cstate.status snap then
        ({ status := translateStatus snap }, ⟨t.states.erase snap.name⟩)
      else (cstate, t)

/-- The loop of `AllTrackedSnaps` over the map, in the order `ks` that Go happens to range in:
`keys[i] = k; i++`. -/
def fillKeys : List String → ℕ → List String → List String
  | keys, _, [] => keys
  | keys, i, k :: ks => fillKeys (keys.set i k) (i + 1) ks

/-- The names of the snaps that are being tracked, ranging over the map in the order `ks`. -/
def allTrackedSnaps (ks : List String) : List String :=
  fillKeys (List.replicate ks.length "") 0 ks

/-- The orders in which Go may range over the tracker's map: each key once. -/
def RangeOrder (t : StateTracker) (ks : List String) : Prop :=
  (ks : Multiset String) = t.states.keys.val

end StateTracker

/-! ## The completion rules -/

lemma isInstalled_eq_true {s : Snap} :
    isInstalled s = true ↔ s.status = clientStatusInstalled ∨ s.status = clientStatusActive := by
  simp only [isInstalled, Bool.or_eq_true, beq_iff_eq]

/-- snapd's own word on a snap is `installed` or `active` exactly for an installed one. -/
lemma translateStatus_installed_iff (s : Snap) :
    translateStatus s = .installed ∨ translateStatus s = .active ↔ isInstalled s = true := by
  rw [isInstalled_eq_true, translateStatus]
  by_cases h₁ : s.status = clientStatusInstalled
  · simp [h₁]
  · by_cases h₂ : s.status = clientStatusActive
    · rw [if_neg h₁, if_pos h₂]
      simp [h₂]
    · rw [if_neg h₁, if_neg h₂]
      split_ifs <;> simp [h₁, h₂]

@[simp] lemma scanTasks_status (tasks : List Task) (s : SnapState) :
    (scanTasks s tasks).status = s.status := by
  induction tasks generalizing s with
  | nil => rfl
  | cons task rest ih =>
      simp only [scanTasks]
      split_ifs <;> first | rfl | rw [ih]

@[simp] lemma scanTasks_changeID (tasks : List Task) (s : SnapState) :
    (scanTasks s tasks).changeID = s.changeID := by
  induction tasks generalizing s with
  | nil => rfl
  | cons task rest ih =>
      simp only [scanTasks]
      split_ifs <;> first | rfl | rw [ih]

/-- The operations that are tracked. -/
inductive Operation
  | install
  | uninstall
  | enable
  | disable
  deriving DecidableEq, Repr

namespace Operation

/-- The status of a snap while the operation runs. -/
def status : Operation → Status
  | install => .installing
  | uninstall => .uninstalling
  | enable => .enabling
  | disable => .disabling

/-- What a `Track` method asks of the record. -/
def precondition : Operation → Snap → Bool
  | install => fun snap => !isInstalled snap
  | uninstall => isInstalled
  | enable => isInstalled
  | disable => isInstalled

/-- What snapd says of a snap is never one of the running states. -/
lemma status_ne_translateStatus (op : Operation) (s : Snap) : op.status ≠ translateStatus s := by
  rw [translateStatus]
  cases op <;> split_ifs <;> decide

end Operation

namespace StateTracker

/-- The `Track` method of an operation. -/
def trackMethod : Operation → StateTracker → String → Snap → StateTracker
  | .install => trackInstall
  | .uninstall => trackUninstall
  | .enable => trackEnable
  | .disable => trackDisable

lemma trackMethod_eq (op : Operation) : trackMethod op = track op.precondition op.status := by
  cases op <;> rfl

/-! ## What each method does to the entries -/

@[simp] lemma lookup_new (n : String) : new.lookup n = none := Finmap.lookup_empty n

@[simp] lemma lookup_trackOperation_self (t : StateTracker) (changeID name : String)
    (operation : Status) :
    (t.trackOperation changeID name operation).lookup name
      = some { status := operation, changeID := changeID } :=
  Finmap.lookup_insert _

lemma lookup_trackOperation_ne (t : StateTracker) (changeID : String) {name n : String}
    (operation : Status) (h : n ≠ name) :
    (t.trackOperation changeID name operation).lookup n = t.lookup n :=
  Finmap.lookup_insert_of_ne _ h

/-- The tracker without the entry for a name. -/
def drop (t : StateTracker) (name : String) : StateTracker := ⟨t.states.erase name⟩

@[simp] lemma lookup_drop_self (t : StateTracker) (name : String) :
    (t.drop name).lookup name = none :=
  Finmap.lookup_erase _ _

lemma lookup_drop_ne (t : StateTracker) {name n : String} (h : n ≠ name) :
    (t.drop name).lookup n = t.lookup n :=
  Finmap.lookup_erase_ne h

lemma ext_lookup {t u : StateTracker} (h : ∀ n, t.lookup n = u.lookup n) : t = u :=
  StateTracker.ext (Finmap.ext_lookup h)

lemma drop_of_lookup_none {t : StateTracker} {name : String} (h : t.lookup name = none) :
    t.drop name = t := by
  refine ext_lookup fun n => ?_
  by_cases hn : n = name
  · rw [hn, lookup_drop_self, h]
  · exact lookup_drop_ne t hn

lemma cancelTrackingFor_eq (t : StateTracker) (name : String) :
    t.cancelTrackingFor name = t.drop name := by
  rw [cancelTrackingFor]
  split
  · next h => exact (drop_of_lookup_none h).symm
  · rfl

/-- The operation on a name, if any, that a record leaves unfinished. -/
lemma isTracked_fst (t : StateTracker) (snap : Snap) :
    (t.isTrackedForRunningOperation snap).1 = true ↔
      ∃ e, t.lookup snap.name = some e ∧ hasOperationCompleted e.status snap = false := by
  rw [isTrackedForRunningOperation]
  cases t.lookup snap.name <;> simp

lemma isTracked_of_lookup {t : StateTracker} {snap : Snap} {e : SnapState}
    (h : t.lookup snap.name = some e) :
    t.isTrackedForRunningOperation snap = (!hasOperationCompleted e.status snap, e.changeID) := by
  rw [isTrackedForRunningOperation, h]

/-- A `Track` method stores its operation exactly when the record meets the precondition and no
operation is running on the snap. -/
lemma track_of_accepted {precondition : Snap → Bool} {operation : Status} {t : StateTracker}
    {changeID : String} {snap : Snap} (hpre : precondition snap = true)
    (hrun : (t.isTrackedForRunningOperation snap).1 = false) :
    track precondition operation t changeID snap
      = t.trackOperation changeID snap.name operation := by
  simp only [track, hpre, hrun, Bool.not_true, Bool.false_eq_true, if_false]

lemma track_of_not_accepted {precondition : Snap → Bool} {operation : Status} {t : StateTracker}
    {changeID : String} {snap : Snap}
    (h : precondition snap = true → (t.isTrackedForRunningOperation snap).1 = true) :
    track precondition operation t changeID snap = t := by
  rw [track]
  by_cases hpre : precondition snap = true
  · simp only [hpre, h hpre, Bool.not_true, Bool.false_eq_true, if_false, if_true]
  · rw [if_pos (by simpa using hpre)]

lemma state_of_untracked {t : StateTracker} {snap : Snap} (c : Option SnapdClient)
    (h : t.lookup snap.name = none) : t.state c snap = ({ status := translateStatus snap }, t) := by
  rw [state, h]

/-- `State` on a completed operation: snapd's word, and the entry is gone. -/
lemma state_of_completed {t : StateTracker} {snap : Snap} {e : SnapState} (c : Option SnapdClient)
    (h : t.lookup snap.name = some e) (hdone : hasOperationCompleted e.status snap = true) :
    t.state c snap = ({ status := translateStatus snap }, t.drop snap.name) := by
  have htr := isTracked_of_lookup h
  rw [hdone] at htr
  simp only [state, h, htr, Bool.not_true, hdone, if_true, drop]

/-- `State` on a running operation: the entry's status and change, and nothing is dropped. -/
lemma state_of_running {t : StateTracker} {snap : Snap} {e : SnapState} (c : Option SnapdClient)
    (h : t.lookup snap.name = some e) (hrun : hasOperationCompleted e.status snap = false) :
    (t.state c snap).1.status = e.status ∧ (t.state c snap).1.changeID = e.changeID ∧
      (t.state c snap).2 = t := by
  have htr := isTracked_of_lookup h
  rw [hrun] at htr
  cases c with
  | none => simp [state, h, htr, hrun]
  | some client =>
      simp only [state, h, htr, Bool.not_false]
      rcases hc : client.change e.changeID with err | change
      · simp [hrun]
      · cases change <;> simp [hrun]

/-- The progress of a running operation is read from the change in its entry. -/
lemma state_progress {t : StateTracker} {snap : Snap} {e : SnapState} {client : SnapdClient}
    {change : Change} (h : t.lookup snap.name = some e)
    (hrun : hasOperationCompleted e.status snap = false)
    (hchange : client.change e.changeID = .ok (some change)) :
    (t.state (some client) snap).1 = scanTasks e change.tasks := by
  have htr := isTracked_of_lookup h
  rw [hrun] at htr
  simp [state, h, htr, hchange, hrun]

/-- What `State` leaves of the tracker. -/
lemma state_snd (t : StateTracker) (c : Option SnapdClient) (snap : Snap) :
    (t.state c snap).2 = t ∨
      (∃ e, t.lookup snap.name = some e ∧ hasOperationCompleted e.status snap = true) ∧
        (t.state c snap).2 = t.drop snap.name := by
  rcases h : t.lookup snap.name with _ | e
  · rw [state_of_untracked c h]
    exact .inl rfl
  · by_cases hdone : hasOperationCompleted e.status snap = true
    · rw [state_of_completed c h hdone]
      exact .inr ⟨⟨e, rfl, hdone⟩, rfl⟩
    · exact .inl (state_of_running c h (by simpa using hdone)).2.2

/-- Dropping brings no entries. -/
lemma lookup_of_lookup_drop {t : StateTracker} {name n : String} {e : SnapState}
    (h : (t.drop name).lookup n = some e) : t.lookup n = some e := by
  by_cases hn : n = name
  · rw [hn, lookup_drop_self] at h
    cases h
  · rwa [lookup_drop_ne t hn] at h

/-- Nor does evaluating. -/
lemma lookup_of_lookup_state {t : StateTracker} {c : Option SnapdClient} {snap : Snap} {n : String}
    {e : SnapState} (h : (t.state c snap).2.lookup n = some e) : t.lookup n = some e := by
  rcases t.state_snd c snap with heq | ⟨-, heq⟩ <;> rw [heq] at h
  · exact h
  · exact lookup_of_lookup_drop h

/-! ## The names -/

lemma fillKeys_append (pre post ks : List String) (h : post.length = ks.length) :
    fillKeys (pre ++ post) pre.length ks = pre ++ ks := by
  induction ks generalizing pre post with
  | nil => simpa [fillKeys] using h
  | cons k ks ih =>
      obtain ⟨p, post, rfl⟩ := List.exists_cons_of_length_eq_add_one h
      have hset : (pre ++ p :: post).set pre.length k = (pre ++ [k]) ++ post := by simp
      have hlen : pre.length + 1 = (pre ++ [k]).length := by simp
      rw [fillKeys, hset, hlen, ih _ _ (by simpa using h)]
      simp

/-- The loop copies the keys in the order it meets them. -/
lemma allTrackedSnaps_eq (ks : List String) : allTrackedSnaps ks = ks := by
  have := fillKeys_append [] (List.replicate ks.length "") ks (by simp)
  simpa [allTrackedSnaps] using this

lemma mem_of_rangeOrder {t : StateTracker} {ks : List String} (h : t.RangeOrder ks) (n : String) :
    n ∈ ks ↔ ∃ e, t.lookup n = some e := by
  have hmem : n ∈ ks ↔ n ∈ t.states.keys := by
    rw [← Finset.mem_val, ← h, Multiset.mem_coe]
  rw [hmem, Finmap.mem_keys, ← Finmap.lookup_isSome, Option.isSome_iff_exists]
  rfl

lemma nodup_of_rangeOrder {t : StateTracker} {ks : List String} (h : t.RangeOrder ks) :
    ks.Nodup := by
  rw [← Multiset.coe_nodup, h]
  exact t.states.keys.nodup

/-! ## Reachable trackers -/

/-- The trackers that any use of the methods can lead to.  Besides the whole methods, the locked
half of a `Track` method may come at any time (another call can run between the two halves), and
so may the removal of an entry by an expiry timer. -/
inductive Reachable : StateTracker → Prop
  | new : Reachable new
  | track {t : StateTracker} (op : Operation) (changeID : String) (snap : Snap) :
      Reachable t → Reachable (trackMethod op t changeID snap)
  | write {t : StateTracker} (op : Operation) (changeID name : String) :
      Reachable t → Reachable (t.trackOperation changeID name op.status)
  | cancel {t : StateTracker} (name : String) :
      Reachable t → Reachable (t.cancelTrackingFor name)
  | state {t : StateTracker} (c : Option SnapdClient) (snap : Snap) :
      Reachable t → Reachable (t.state c snap).2
  | expire {t : StateTracker} (name : String) : Reachable t → Reachable (t.drop name)

/-- Every entry is as `trackOperation` stored it: an operation and the change it runs as. -/
def Tracking (t : StateTracker) : Prop :=
  ∀ n e, t.lookup n = some e → ∃ (op : Operation) (changeID : String),
    e = { status := op.status, changeID := changeID }

lemma Tracking.drop {t : StateTracker} (h : t.Tracking) (name : String) : (t.drop name).Tracking := by
  intro n e he
  by_cases hn : n = name
  · rw [hn, lookup_drop_self] at he
    cases he
  · rw [lookup_drop_ne t hn] at he
    exact h n e he

lemma Tracking.trackOperation {t : StateTracker} (h : t.Tracking) (op : Operation)
    (changeID name : String) : (t.trackOperation changeID name op.status).Tracking := by
  intro n e he
  by_cases hn : n = name
  · rw [hn, lookup_trackOperation_self] at he
    cases he
    exact ⟨op, changeID, rfl⟩
  · rw [lookup_trackOperation_ne t changeID _ hn] at he
    exact h n e he

lemma Tracking.trackMethod {t : StateTracker} (h : t.Tracking) (op : Operation)
    (changeID : String) (snap : Snap) : (trackMethod op t changeID snap).Tracking := by
  rw [trackMethod_eq]
  by_cases hacc : op.precondition snap = true → (t.isTrackedForRunningOperation snap).1 = true
  · rw [track_of_not_accepted hacc]
    exact h
  · push Not at hacc
    rw [track_of_accepted hacc.1 (by simpa using hacc.2)]
    exact h.trackOperation op changeID snap.name

lemma Tracking.state {t : StateTracker} (h : t.Tracking) (c : Option SnapdClient) (snap : Snap) :
    (t.state c snap).2.Tracking := by
  rcases state_snd t c snap with heq | ⟨_, heq⟩ <;> rw [heq]
  · exact h
  · exact h.drop snap.name

/-- **The entries of a reachable tracker.** -/
theorem Reachable.tracking {t : StateTracker} (h : Reachable t) : t.Tracking := by
  induction h with
  | new => intro n e he; simp at he
  | track op changeID snap _ ih => exact ih.trackMethod op changeID snap
  | write op changeID name _ ih => exact ih.trackOperation op changeID name
  | cancel name _ ih =>
      rw [cancelTrackingFor_eq]
      exact ih.drop name
  | state c snap _ ih => exact ih.state c snap
  | expire name _ ih => exact ih.drop name

end StateTracker

end Snapweb
