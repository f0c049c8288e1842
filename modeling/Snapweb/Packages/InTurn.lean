import Snapweb.Packages.Handlers
import Snapweb.Packages.Interleaving

/-!
# Requests served one after the other

The handlers serve a request at once; a thread serves it step by step, with the steps of others in
between.  Here the threads wait for each other: one takes its steps, with what one snapd answers, until
it has finished, and then the next request comes.

* `Alone.unique` — a thread that is alone comes to one end.
* `leaves_request` — this is what the handler makes of the request.
* `served_in_turn` — so the threads do what the handlers do, over any number of requests.
-/

namespace Snapweb

/-! ## The steps of a thread -/

/-- The call to snapd that an operation is started by. -/
def Operation.call : Operation → String → SnapdCall
  | install => .install
  | uninstall => .remove
  | enable => .enable
  | disable => .disable

/-- The next step of a thread, if it has one, where snapd answers as `c`. -/
def Thread.move (c : SnapdClient) : Thread → Option Move
  | idle => none
  | lookingUp _ name =>
      match getSnap c name with
      | .error _ => some (.lookup none)
      | .ok found => found.map fun snap => .lookup (some snap)
  | calling op snap => some (.call (c.start op snap.name))
  | checking _ _ _ _ => some .check
  | storing _ _ _ _ => some .store
  | abortChecking _ => some .check
  | aborting _ changeID => some (.abort (c.abort changeID))
  | cancelling _ _ => some .cancel
  | evaluating _ _ => some (.evaluate c)

/-- What it calls snapd for in that step, besides looking the snap up. -/
def Thread.calls : Thread → List SnapdCall
  | calling op snap => [op.call snap.name]
  | aborting _ changeID => [.abort changeID]
  | _ => []

/-- What a thread does for an operation. -/
def PackageOp.job : PackageOp → Job
  | start op => .start op
  | abort => .cancel

/-- What a request for a snap is for, and the snap. -/
def Request.job : Request → Option (Job × String)
  | .get name => some (.get, name)
  | .add name => some (.start .install, name)
  | .remove name => some (.start .uninstall, name)
  | .update name (.text status) =>
      if name = "" then none else (updateOp status).map fun op => (op.job, name)
  | _ => none

/-- The requests, as the handlers serve them one after the other: the calls to snapd, and the
server. -/
def handleInTurn (sv : Server) : List (Surroundings × Request) → List SnapdCall × Server
  | [] => ([], sv)
  | (env, req) :: requests =>
      let served := handle env sv req
      let (calls, sv) := handleInTurn served.server requests
      (served.calls ++ calls, sv)

/-- The request is for a snap, and snapd has a record of this name, or refuses to give one. -/
def IsFor (r : Surroundings × Request) (job : Job) (name : String) : Prop :=
  r.2.job = some (job, name) ∧ ((∃ err, getSnap r.1.client name = .error err) ∨
    ∃ snap, getSnap r.1.client name = .ok (some snap) ∧ snap.name = name)

namespace World

/-- The thread `i` takes its steps, and no other does, until it has finished; with what it calls
snapd for. -/
inductive Alone (c : SnapdClient) (i : ℕ) : World → List SnapdCall → World → Prop
  | finished (w : World) : w.threads i = .idle → Alone c i w [] w
  | step {w w₁ w' : World} {move : Move} {calls : List SnapdCall} :
      (w.threads i).move c = some move → machine.next w (i, move) = some w₁ →
      Alone c i w₁ calls w' → Alone c i w ((w.threads i).calls ++ calls) w'

/-- Requests come one after the other, each of them to a thread that is idle and that then is
alone. -/
inductive InTurn : World → List (Surroundings × Request) → List SnapdCall → World → Prop
  | nil (w : World) : InTurn w [] [] w
  | cons {w w₁ w₂ w' : World} {i : ℕ} {env : Surroundings} {req : Request} {job : Job} {name : String}
      {requests : List (Surroundings × Request)} {calls calls' : List SnapdCall} :
      req.job = some (job, name) → machine.next w (i, .arrive job name) = some w₁ →
      Alone env.client i w₁ calls w₂ → InTurn w₂ requests calls' w' →
      InTurn w ((env, req) :: requests) (calls ++ calls') w'

/-! ## A thread alone -/

section
variable {c : SnapdClient} {i : ℕ} {w w₁ w' : World} {calls : List SnapdCall} {t : StateTracker}

/-- A thread that is alone comes to one end. -/
lemma Alone.unique (h : Alone c i w calls w') {calls₁ : List SnapdCall} (h₁ : Alone c i w calls₁ w₁) :
    calls = calls₁ ∧ w' = w₁ := by
  induction h generalizing calls₁ w₁ with
  | finished w hidle =>
      cases h₁ with
      | finished _ _ => exact ⟨rfl, rfl⟩
      | step hmove _ _ =>
          rw [hidle] at hmove
          cases hmove
  | step hmove hnext _ ih =>
      cases h₁ with
      | finished _ hidle =>
          rw [hidle] at hmove
          cases hmove
      | step hmove₁ hnext₁ h₁ =>
          cases hmove.symm.trans hmove₁
          cases hnext.symm.trans hnext₁
          obtain ⟨rfl, rfl⟩ := ih h₁
          exact ⟨rfl, rfl⟩

/-- In the end the thread is idle. -/
lemma Alone.idle (h : Alone c i w calls w') : w'.threads i = .idle := by
  induction h with
  | finished w hidle => exact hidle
  | step _ _ _ ih => exact ih

/-- The thread, if it is alone, calls snapd for `calls`, and leaves the tracker `t`. -/
def Leaves (c : SnapdClient) (i : ℕ) (w : World) (calls : List SnapdCall) (t : StateTracker) : Prop :=
  ∃ w', Alone c i w calls w' ∧ w'.tracker = t

lemma leaves_idle (hth : w.threads i = .idle) : Leaves c i w [] w.tracker :=
  ⟨w, .finished w hth, rfl⟩

lemma leaves_step {th : Thread} {move : Move} (hth : w.threads i = th) (hmove : th.move c = some move)
    (hs : w.Takes i move w₁) (h : Leaves c i w₁ calls t) : Leaves c i w (th.calls ++ calls) t := by
  obtain ⟨w', halone, htracker⟩ := h
  subst hth
  exact ⟨w', .step hmove hs.next halone, htracker⟩

/-- A step that is no call to snapd. -/
lemma leaves_silent {th : Thread} {move : Move} (hth : w.threads i = th)
    (hmove : th.move c = some move) (hcalls : th.calls = []) (hs : w.Takes i move w₁)
    (h : Leaves c i w₁ calls t) : Leaves c i w calls t := by
  have hleaves := leaves_step hth hmove hs h
  rwa [hcalls, List.nil_append] at hleaves

/-- A thread that goes idle leaves the tracker as it is. -/
lemma leaves_become_idle (c : SnapdClient) (w : World) (i : ℕ) :
    Leaves c i (w.become i .idle) [] w.tracker :=
  leaves_idle (threads_become_self w i .idle)

/-- From the check of a `Track` method on, a thread does what the method does. -/
lemma leaves_checking {op : Operation} {snap : Snap} {changeID : String} {acceptedAt : Option ℕ}
    (hth : w.threads i = .checking op snap changeID acceptedAt) :
    Leaves c i w [] (StateTracker.track op.precondition op.status w.tracker changeID snap) := by
  by_cases hcheck : op.precondition snap = true →
      (w.tracker.isTrackedForRunningOperation snap).1 = true
  · rw [StateTracker.track_of_not_accepted hcheck]
    exact leaves_silent hth rfl rfl (.ignored _ _ _ _ hth hcheck) (leaves_become_idle c w i)
  · simp only [not_forall, Bool.not_eq_true] at hcheck
    obtain ⟨hpre, hrun⟩ := hcheck
    rw [StateTracker.track_of_accepted hpre hrun]
    have hstoring := threads_become_self w i (.storing op snap.name changeID acceptedAt)
    exact leaves_silent hth rfl rfl (.passed _ _ _ _ hth hpre hrun)
      (leaves_silent hstoring rfl rfl (.stored _ _ _ _ hstoring)
        (leaves_idle (threads_become_self _ i .idle)))

/-- From the call on, a thread tells the tracker of an accepted change, and of a refused one if
its operation does. -/
lemma leaves_calling {op : Operation} {snap : Snap} (hth : w.threads i = .calling op snap) :
    Leaves c i w [op.call snap.name]
      (if (c.start op snap.name).2 = none ∨ op.tracksRefused = true then
        StateTracker.track op.precondition op.status w.tracker (c.start op snap.name).1 snap
      else w.tracker) := by
  have hrest : Leaves c i (w.become i (op.afterCall w.now snap (c.start op snap.name))) []
      (if (c.start op snap.name).2 = none ∨ op.tracksRefused = true then
        StateTracker.track op.precondition op.status w.tracker (c.start op snap.name).1 snap
      else w.tracker) := by
    obtain ⟨changeID, _ | err⟩ := c.start op snap.name
    · rw [if_pos (.inl rfl)]
      exact leaves_checking (threads_become_self w i _)
    · by_cases hrefused : op.tracksRefused = true
      · rw [if_pos (.inr hrefused)]
        simp only [Operation.afterCall, if_pos hrefused]
        exact leaves_checking (threads_become_self w i _)
      · rw [if_neg (by simpa using hrefused)]
        simp only [Operation.afterCall, if_neg hrefused]
        exact leaves_become_idle c w i
  exact leaves_step hth rfl (.answered _ _ _ hth) hrest

/-- From its check on, an abort does what `abortRunningOperation` does. -/
lemma leaves_abortChecking {snap : Snap} (hsnap : getSnap c snap.name = .ok (some snap))
    (hth : w.threads i = .abortChecking snap) :
    Leaves c i w (abortRunningOperation c snap.name w.tracker).calls
      (abortRunningOperation c snap.name w.tracker).tracker := by
  rcases htr : w.tracker.isTrackedForRunningOperation snap with ⟨_ | _, changeID⟩
  · simp only [abortRunningOperation, hsnap, htr]
    exact leaves_silent hth rfl rfl (.notRunning _ hth (congrArg Prod.fst htr))
      (leaves_become_idle c w i)
  · rw [abort_calls hsnap htr]
    refine leaves_silent hth rfl rfl (.running _ _ hth htr) ?_
    have haborting := threads_become_self w i (.aborting snap.name changeID)
    have hmove : (Thread.aborting snap.name changeID).move c = some (.abort (c.abort changeID)) := rfl
    rcases habort : c.abort changeID with _ | err
    · rw [habort] at hmove
      simp only [abortRunningOperation, hsnap, htr, habort]
      have hcancelling := threads_become_self
        (w.become i (.aborting snap.name changeID)) i (.cancelling snap.name changeID)
      have hcancelled := leaves_silent (c := c) hcancelling rfl rfl (.cancelled _ _ hcancelling)
        (leaves_idle (threads_become_self _ i .idle))
      exact leaves_step haborting hmove (.aborted _ _ haborting) hcancelled
    · rw [habort] at hmove
      simp only [abortRunningOperation, hsnap, htr, habort]
      exact leaves_step haborting hmove (.notAborted _ _ err haborting) (leaves_become_idle c _ i)

/-- A thread that looks a snap up, and does not find it. -/
lemma leaves_notFound {job : Job} {name : String} {err : Error} (hsnap : getSnap c name = .error err)
    (hth : w.threads i = .lookingUp job name) : Leaves c i w [] w.tracker := by
  have hmove : (Thread.lookingUp job name).move c = some (.lookup none) := by
    simp only [Thread.move, hsnap]
  exact leaves_silent hth hmove rfl (.notFound _ _ hth) (leaves_become_idle c w i)

/-- A thread that finds its snap. -/
lemma leaves_found {job : Job} {snap : Snap} (hsnap : getSnap c snap.name = .ok (some snap))
    (hth : w.threads i = .lookingUp job snap.name)
    (h : Leaves c i (w.become i (job.afterLookup w.now snap)) calls t) : Leaves c i w calls t := by
  have hmove : (Thread.lookingUp job snap.name).move c = some (.lookup (some snap)) := by
    simp only [Thread.move, hsnap, Option.map_some]
  exact leaves_silent hth hmove rfl (.found _ _ hth) h

end

end World

/-! ## What the handlers do -/

section
variable {c : SnapdClient} {name : String} {snap : Snap}

/-- What an operation calls snapd for, once the snap is found. -/
lemma run_start_calls (hsnap : getSnap c name = .ok (some snap)) (op : Operation) (t : StateTracker) :
    ((PackageOp.start op).run c name t).calls
      = if op.admits snap = true then [op.call name] else [] := by
  have hswitch : ∀ (required : Status) (refusal : Error) (call : SnapdCall)
      (start : String × Option Error) (track : StateTracker → String → Snap → StateTracker),
      (switchAndTrack required refusal call start track c name t).calls =
        if (snap.status == required.text) = true then [call] else [] := by
    intro required refusal call start track
    simp only [switchAndTrack, hsnap]
    by_cases hstatus : snap.status = required.text
    · rcases hstart : start.2 with _ | err <;> simp [hstatus]
    · simp [hstatus]
  cases op with
  | install =>
      simp [PackageOp.run, installPackage, startAndTrack, hsnap, Operation.admits, Operation.call]
  | uninstall =>
      simp [PackageOp.run, removePackage, startAndTrack, hsnap, Operation.admits, Operation.call]
  | enable => exact hswitch .installed _ _ (c.enable name) StateTracker.trackEnable
  | disable => exact hswitch .active _ _ (c.disable name) StateTracker.trackDisable

/-- Without a record, no operation calls snapd. -/
lemma run_calls_of_error {err : Error} (hsnap : getSnap c name = .error err) (op : PackageOp)
    (t : StateTracker) : (op.run c name t).calls = [] := by
  rcases op with (_ | _ | _ | _) | _ <;>
    simp only [PackageOp.run, installPackage, removePackage, enable, disable, abortRunningOperation,
      startAndTrack, switchAndTrack, hsnap]

end

/-- What a request for a snap comes to. -/
lemma handle_of_job {req : Request} {job : Job} {name : String} (hjob : req.job = some (job, name))
    (env : Surroundings) (sv : Server) :
    (job = .get ∧ handle env sv req = get name env sv) ∨
      ∃ op : PackageOp, job = op.job ∧
        (handle env sv req).calls = (op.run env.client name sv.stateTracker).calls ∧
        (handle env sv req).server.stateTracker
          = (op.run env.client name sv.stateTracker).tracker := by
  have hoperate : ∀ op,
      (operate op name env sv).calls = (op.run env.client name sv.stateTracker).calls ∧
        (operate op name env sv).server.stateTracker
          = (op.run env.client name sv.stateTracker).tracker := by
    intro op
    rcases houtcome : (op.run env.client name sv.stateTracker).outcome with _ | err | _ <;>
      simp [operate, houtcome]
  cases req with
  | getAll form => cases hjob
  | get name' =>
      cases hjob
      exact .inl ⟨rfl, rfl⟩
  | add name' =>
      cases hjob
      exact .inr ⟨.start .install, rfl, hoperate _⟩
  | remove name' =>
      cases hjob
      exact .inr ⟨.start .uninstall, rfl, hoperate _⟩
  | update name' body =>
      cases body with
      | text status =>
          rw [Request.job] at hjob
          split_ifs at hjob with hname
          obtain ⟨op, hop, heq⟩ := Option.map_eq_some_iff.mp hjob
          cases heq
          refine .inr ⟨op, rfl, ?_⟩
          rcases houtcome : (op.run env.client name sv.stateTracker).outcome with _ | err | _ <;>
            simp [handle, update, if_neg hname, hop, houtcome]
      | _ => cases hjob

namespace World

variable {c : SnapdClient} {i : ℕ} {w : World}

/-- A thread does for an operation what its function does. -/
lemma leaves_operation {op : PackageOp} {snap : Snap} (hsnap : getSnap c snap.name = .ok (some snap))
    (hth : w.threads i = .lookingUp op.job snap.name) :
    Leaves c i w (op.run c snap.name w.tracker).calls (op.run c snap.name w.tracker).tracker := by
  refine leaves_found hsnap hth ?_
  cases op with
  | abort => exact leaves_abortChecking hsnap (threads_become_self w i _)
  | start op =>
      rw [run_start_tracker hsnap, run_start_calls hsnap]
      simp only [PackageOp.job, Job.afterLookup]
      by_cases hadmits : op.admits snap = true
      · simp only [hadmits, if_true, true_and]
        exact leaves_calling (threads_become_self w i _)
      · rw [if_neg hadmits, if_neg hadmits, if_neg fun h => hadmits h.1]
        exact leaves_become_idle c w i

/-- A thread does for a request what its handler does. -/
lemma leaves_request {env : Surroundings} {req : Request} {job : Job} {name : String} {sv : Server}
    (hfor : IsFor (env, req) job name) (hw : w.tracker = sv.stateTracker)
    (hth : w.threads i = .lookingUp job name) :
    Leaves env.client i w (handle env sv req).calls (handle env sv req).server.stateTracker := by
  obtain ⟨hjob, ⟨err, hsnap⟩ | ⟨snap, hsnap, rfl⟩⟩ := hfor
  · have hsame := leaves_notFound hsnap hth
    rcases handle_of_job hjob env sv with ⟨-, hget⟩ | ⟨op, -, hcalls, htracker⟩
    · have hserved : get name env sv
          = ⟨some { code := 404, body := .text (err ++ " " ++ name ++ "\n") }, [], sv⟩ := by
        simp only [get, packagePayload, hsnap]
      rw [hget, hserved]
      rwa [hw] at hsame
    · rw [hcalls, htracker, run_calls_of_error hsnap,
        run_tracker_of_not_found (fun snap h => by rw [hsnap] at h; cases h)]
      rwa [hw] at hsame
  · rcases handle_of_job hjob env sv with ⟨rfl, hget⟩ | ⟨op, rfl, hcalls, htracker⟩
    · have hserved : (get snap.name env sv).calls = [] ∧
          (get snap.name env sv).server = (snapToPayload env sv snap).2 := by
        simp only [get, packagePayload, hsnap]
        exact ⟨trivial, trivial⟩
      rw [hget, hserved.1, hserved.2, snapToPayload_server, ← hw]
      have hevaluating := threads_become_self w i (.evaluating snap w.now)
      exact leaves_found hsnap hth (leaves_silent hevaluating rfl rfl
        (.evaluated _ _ env.client hevaluating) (leaves_idle (threads_become_self _ i .idle)))
    · rw [hcalls, htracker, ← hw]
      exact leaves_operation hsnap hth

/-- **Requests in turn.**  Requests for snaps that come one after the other, each of them served by a
thread that no other interrupts, can all be served; and in every such run snapd is called for, and the
tracker comes to, what the handlers make of the requests one after the other. -/
theorem served_in_turn (requests : List (Surroundings × Request))
    (hfor : ∀ r ∈ requests, ∃ job name, IsFor r job name) {w : World} (hidle : w.threads i = .idle)
    {sv : Server} (hw : w.tracker = sv.stateTracker) :
    (∃ calls w', InTurn w requests calls w') ∧
      ∀ calls w', InTurn w requests calls w' →
        calls = (handleInTurn sv requests).1 ∧
          w'.tracker = (handleInTurn sv requests).2.stateTracker := by
  have hnext : ∀ (w : World) j job name, w.threads j = .idle →
      machine.next w (j, .arrive job name) = some (w.become j (.lookingUp job name)) :=
    fun w j job name hj => (Takes.arrived job name hj).next
  induction requests generalizing w sv i with
  | nil =>
      refine ⟨⟨[], w, .nil w⟩, ?_⟩
      rintro calls w' ⟨⟩
      exact ⟨rfl, hw⟩
  | cons r requests ih =>
      obtain ⟨env, req⟩ := r
      obtain ⟨⟨job, name, hr⟩, hrest⟩ := List.forall_mem_cons.mp hfor
      have hserved : ∀ j, Leaves env.client j (w.become j (.lookingUp job name))
          (handle env sv req).calls (handle env sv req).server.stateTracker :=
        fun j => leaves_request hr hw (threads_become_self w j _)
      constructor
      · obtain ⟨w₁, halone, htracker⟩ := hserved i
        obtain ⟨⟨calls, w', hturn⟩, -⟩ := ih hrest halone.idle htracker
        exact ⟨_, w', .cons hr.1 (hnext w i job name hidle) halone hturn⟩
      · intro calls w' hturn
        cases hturn with
        | @cons _ w₁ w₂ _ j _ _ job' name' _ calls calls' hjob harrive halone hturn =>
            cases hr.1.symm.trans hjob
            have hj : w.threads j = .idle := by
              cases takes_of_next harrive with
              | arrived _ _ hj => exact hj
            cases (hnext w j job name hj).symm.trans harrive
            obtain ⟨w₃, halone₃, htracker⟩ := hserved j
            obtain ⟨rfl, rfl⟩ := halone₃.unique halone
            obtain ⟨hcalls, htracker'⟩ := (ih hrest halone.idle htracker).2 calls' w' hturn
            rw [hcalls, htracker', handleInTurn]
            exact ⟨rfl, rfl⟩

/-- A snapd that has `hello-world` in its store. -/
def storeHasHelloWorld : Surroundings where
  client := .knowing { name := "hello-world", status := clientStatusAvailable } "1"
  mkdirAll := true
  write := fun _ => .done

/-- The snap is installed, looked at, and its installation is cancelled. -/
def installedAndCancelled : List (Surroundings × Request) :=
  [(storeHasHelloWorld, .add "hello-world"), (storeHasHelloWorld, .get "hello-world"),
    (storeHasHelloWorld, .update "hello-world" (.text "cancel"))]

/-- Snapd is called for the installation and for an abort of its change, and nothing is tracked. -/
theorem installed_and_cancelled_in_turn :
    ∃ w', InTurn init installedAndCancelled [.install "hello-world", .abort "1"] w' ∧
      w'.tracker.lookup "hello-world" = none := by
  have hfor : ∀ r ∈ installedAndCancelled, ∃ job name, IsFor r job name := by
    intro r hr
    simp only [installedAndCancelled, List.mem_cons, List.not_mem_nil, or_false] at hr
    rcases hr with rfl | rfl | rfl
    · exact ⟨.start .install, "hello-world", rfl, .inr ⟨_, rfl, rfl⟩⟩
    · exact ⟨.get, "hello-world", rfl, .inr ⟨_, rfl, rfl⟩⟩
    · exact ⟨.cancel, "hello-world", rfl, .inr ⟨_, rfl, rfl⟩⟩
  have htracker : init.tracker = (Server.start "" ∅).stateTracker := rfl
  obtain ⟨⟨calls, w', hturn⟩, hall⟩ :=
    served_in_turn (i := 0) installedAndCancelled hfor rfl htracker
  obtain ⟨rfl, hleft⟩ := hall calls w' hturn
  refine ⟨w', hturn, ?_⟩
  rw [hleft]
  rfl

end World

end Snapweb
