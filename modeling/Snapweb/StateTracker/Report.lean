import Snapweb.StateTracker.StateTracker

/-!
# What is reported of a running change

While an operation runs, `State` looks at the tasks of its change up to the first one that is being
done.  It writes to a copy of the entry, so nothing of what it finds is kept.

* `scanTasks_eq` — what the loop finds.
* `state_reports` — what `State` reports, after any number of other calls of it.
-/

namespace Snapweb

/-- The task is being done. -/
def Task.isDoing (task : Task) : Bool := task.status = doingStatus

/-- The value that the loop takes for a size. -/
def Task.done (task : Task) : UInt64 := task.progress.done.toUInt64

/-- The tasks up to the first one that is being done, and with it; all of them if there is none. -/
def upToDoing (tasks : List Task) : List Task := tasks.take (tasks.findIdx Task.isDoing + 1)

/-- The summary of the first task that is being done. -/
def doingSummary (tasks : List Task) : Option String := (tasks.find? Task.isDoing).map Task.summary

/-- The last value above 1. -/
def lastSize (tasks : List Task) : Option UInt64 :=
  ((tasks.map Task.done).filter (1 < ·)).getLast?

lemma upToDoing_cons (task : Task) (rest : List Task) :
    upToDoing (task :: rest) = if task.isDoing then [task] else task :: upToDoing rest := by
  rw [upToDoing, List.findIdx_cons, List.take_succ_cons]
  by_cases hdoing : task.isDoing = true
  · simp [hdoing]
  · simp [hdoing, upToDoing]

lemma doingSummary_upToDoing (tasks : List Task) :
    doingSummary (upToDoing tasks) = doingSummary tasks := by
  induction tasks with
  | nil => rfl
  | cons task rest ih =>
      rw [upToDoing_cons, doingSummary, doingSummary, List.find?_cons]
      rcases hdoing : task.isDoing
      · rw [if_neg Bool.false_ne_true, List.find?_cons, hdoing]
        exact ih
      · rw [if_pos rfl, List.find?_cons, hdoing]

lemma lastSize_cons (task : Task) (rest : List Task) :
    lastSize (task :: rest) = (lastSize rest).or (if 1 < task.done then some task.done else none) := by
  rw [lastSize, lastSize, List.map_cons, List.filter_cons]
  by_cases hsize : 1 < task.done
  · rw [if_pos (decide_eq_true hsize), if_pos hsize, List.getLast?_cons]
    exact Option.or_some.symm
  · rw [if_neg (by simpa using hsize), if_neg hsize, Option.or_none]

/-- The loop finds the summary of the first task that is being done, and the last size up to it. -/
lemma scanTasks_eq (tasks : List Task) (s : SnapState) :
    scanTasks s tasks = { s with
      taskSummary := (doingSummary tasks).getD s.taskSummary
      localSize := (lastSize (upToDoing tasks)).getD s.localSize } := by
  induction tasks generalizing s with
  | nil => rfl
  | cons task rest ih =>
      rw [scanTasks, upToDoing_cons, doingSummary, List.find?_cons]
      by_cases hdoing : task.status = doingStatus
      · have htask : task.isDoing = true := decide_eq_true hdoing
        rw [htask, if_pos rfl, lastSize_cons]
        by_cases hsize : 1 < task.progress.done.toUInt64
        · simp only [hdoing, hsize, Task.done, ne_eq, not_true, if_true, if_false]
          rfl
        · simp only [hdoing, hsize, Task.done, ne_eq, not_true, if_false]
          rfl
      · have htask : task.isDoing = false := decide_eq_false hdoing
        rw [htask, if_neg Bool.false_ne_true, lastSize_cons]
        by_cases hsize : 1 < task.progress.done.toUInt64
        · simp only [hdoing, hsize, Task.done, ne_eq, not_false_eq_true, if_true, ih, doingSummary]
          rcases lastSize (upToDoing rest) <;> rfl
        · simp only [hdoing, hsize, Task.done, ne_eq, not_false_eq_true, if_true, if_false, ih,
            doingSummary, Option.or_none]

namespace StateTracker

/-- The tracker after calls of `State`. -/
def afterStates (t : StateTracker) (calls : List (Option SnapdClient × Snap)) : StateTracker :=
  calls.foldl (fun t call => (t.state call.1 call.2).2) t

/-- `State` keeps the entry of an operation that the record leaves unfinished. -/
lemma lookup_afterStates {t : StateTracker} {name : String} {e : SnapState}
    {calls : List (Option SnapdClient × Snap)} (h : t.lookup name = some e)
    (hcalls : ∀ call ∈ calls, call.2.name = name → hasOperationCompleted e.status call.2 = false) :
    (t.afterStates calls).lookup name = some e := by
  induction calls generalizing t with
  | nil => exact h
  | cons call calls ih =>
      refine ih ?_ fun call hcall => hcalls call (List.mem_cons_of_mem _ hcall)
      dsimp only
      rcases t.state_snd call.1 call.2 with heq | ⟨⟨e', he', hdone⟩, heq⟩
      · rw [heq, h]
      · by_cases hname : name = call.2.name
        · rw [← hname, h] at he'
          cases he'
          rw [hcalls call List.mem_cons_self hname.symm] at hdone
          cases hdone
        · rw [heq, lookup_drop_ne t hname, h]

/-- **What is reported of a running change.**  Whatever calls of `State` come before, `State` reports
the summary of the first task that is being done and the last size up to it, and leaves the tracker
as it was; the tasks after that one have no part in it. -/
theorem state_reports {t : StateTracker} (ht : t.Reachable) {snap : Snap} {e : SnapState}
    (h : t.lookup snap.name = some e) (hrun : hasOperationCompleted e.status snap = false)
    {calls : List (Option SnapdClient × Snap)}
    (hcalls : ∀ call ∈ calls, call.2.name = snap.name →
      hasOperationCompleted e.status call.2 = false)
    {client : SnapdClient} {change : Change} (hchange : client.change e.changeID = .ok (some change)) :
    let reported := (t.afterStates calls).state (some client) snap
    reported.1 =
        { status := e.status, changeID := e.changeID
          taskSummary := (doingSummary change.tasks).getD ""
          localSize := (lastSize (upToDoing change.tasks)).getD 0 } ∧
      reported.2 = t.afterStates calls ∧
      ∀ (client' : SnapdClient) (change' : Change),
        client'.change e.changeID = .ok (some change') →
        upToDoing change'.tasks = upToDoing change.tasks →
        ((t.afterStates calls).state (some client') snap).1 = reported.1 := by
  have hentry := lookup_afterStates h hcalls
  obtain ⟨op, changeID, rfl⟩ := ht.tracking _ _ h
  intro reported
  refine ⟨?_, (state_of_running (some client) hentry hrun).2.2, fun client' change' hchange' hsame => ?_⟩
  · rw [show reported.1 = _ from state_progress hentry hrun hchange, scanTasks_eq]
  · rw [show reported.1 = _ from state_progress hentry hrun hchange,
      state_progress hentry hrun hchange', scanTasks_eq, scanTasks_eq, hsame,
      ← doingSummary_upToDoing change'.tasks, hsame, doingSummary_upToDoing]

/-- A change that downloads, with a task after it that is not begun. -/
def downloading : Change :=
  ⟨[⟨doingStatus, "Download snap", ⟨4096, 8192⟩⟩, ⟨"Do", "Mount snap", ⟨5, 1⟩⟩]⟩

/-- The download is what is reported, the first time and again. -/
theorem state_reports_download :
    let snap : Snap := { name := "hello-world", status := clientStatusAvailable }
    let client := { SnapdClient.knowing snap "1" with change := fun _ => .ok (some downloading) }
    let t := new.trackInstall "1" snap
    ((t.afterStates [(some client, snap)]).state (some client) snap).1
      = { status := .installing, changeID := "1", taskSummary := "Download snap", localSize := 4096 } := by
  intro snap client t
  have hentry : t.lookup snap.name = some { status := .installing, changeID := "1" } := by decide
  have hcalls : ∀ call ∈ [((some client : Option SnapdClient), snap)], call.2.name = snap.name →
      hasOperationCompleted .installing call.2 = false := by
    intro call hcall _
    rw [List.mem_singleton.mp hcall]
    decide
  have hchange : client.change "1" = .ok (some downloading) := rfl
  refine (state_reports (.track .install "1" snap .new) hentry (by decide) hcalls hchange).1.trans ?_
  decide

end StateTracker

end Snapweb
