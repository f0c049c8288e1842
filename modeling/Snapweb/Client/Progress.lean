import Snapweb.Client.SnapModel

/-!
# The progress of an operation

`State` takes the size that a task of a change reports, `snapToPayload` sends it as `local_size`, and
`Snap.parse` divides it by the payload's `download_size`, which is sent only of a snap that is not
installed.

* `scanTasks_localSize` — which size `State` takes.
* `progress_percent_iff` — when the client's progress is a percentage.
* `removal_has_no_progress` — the progress of a removal.
-/

namespace Snapweb

/-! ## The size that is reported -/

/-- The size that a task reports, if it is one (a task that does not count anything has `Done` 1). -/
def Task.size (task : Task) : Option UInt64 :=
  if 1 < task.progress.done.toUInt64 then some task.progress.done.toUInt64 else none

/-- The size that is reported last, up to the first task that is being done. -/
def reportedSize : List Task → Option UInt64
  | [] => none
  | task :: rest =>
      if task.status = doingStatus then task.size else (reportedSize rest).or task.size

lemma scanTasks_localSize (tasks : List Task) (s : SnapState) :
    (scanTasks s tasks).localSize = (reportedSize tasks).getD s.localSize := by
  induction tasks generalizing s with
  | nil => rfl
  | cons task rest ih =>
      rw [scanTasks, reportedSize, Task.size]
      by_cases hdoing : task.status = doingStatus
      · by_cases hsize : 1 < task.progress.done.toUInt64
        · simp [hdoing, hsize]
        · simp [hdoing, hsize]
      · by_cases hsize : 1 < task.progress.done.toUInt64
        · simp only [hsize, if_true, hdoing, ne_eq, not_false_eq_true, if_false, ih]
          cases reportedSize rest <;> rfl
        · simp [hdoing, hsize, ih]

/-- A size that is reported is positive. -/
lemma reportedSize_pos {tasks : List Task} {size : UInt64} (h : reportedSize tasks = some size) :
    0 < size.toNat := by
  have htask : ∀ task : Task, task.size = some size → 0 < size.toNat := by
    intro task hsize
    rw [Task.size] at hsize
    split_ifs at hsize with hlt
    cases hsize
    have := UInt64.lt_iff_toNat_lt.mp hlt
    omega
  induction tasks with
  | nil => cases h
  | cons task rest ih =>
      rw [reportedSize] at h
      split_ifs at h with hdoing
      · exact htask task h
      · rcases Option.or_eq_some_iff.mp h with h | ⟨-, h⟩
        · exact ih h
        · exact htask task h

/-! ## The progress that is shown -/

namespace Client

/-- If the object carries a positive local size, its progress is a percentage. -/
def ShowsPercent (response : Attributes) : Prop :=
  ∀ localSize, response.state.bind (·.localSize) = some localSize → 0 < localSize →
    ∃ z : ℤ, response.downloadProgress = some (.int z) ∧ 0 ≤ z ∧ z ≤ 100

/-- A positive number by a negative one. -/
lemma fdiv_neg_of_pos_of_neg {a b : ℤ} (ha : 0 < a) (hb : b < 0) : a.fdiv b < 0 := by
  rcases (Int.fdiv_nonpos_of_nonneg_of_nonpos ha.le hb.le).lt_or_eq with hlt | hzero
  · exact hlt
  · -- else the remainder is the number itself
    have hmod := Int.mul_fdiv_add_fmod a b
    rw [hzero, Int.mul_zero, Int.zero_add, Int.fmod_eq_emod] at hmod
    split_ifs at hmod with hdvd
    · rcases hdvd with hnonneg | hdvd
      · omega
      · rw [Int.emod_eq_zero_of_dvd hdvd] at hmod
        omega
    · have hlt := Int.emod_lt_of_neg a hb
      omega

/-- The quotient is a percentage exactly if the size is there, and is not much less than what has
been got of it. -/
lemma downloadProgress_percent_iff {localSize : ℕ} (hpos : 0 < localSize) (size : ℤ) :
    (∃ z : ℤ, downloadProgress localSize (omitEmpty 0 size) = .int z ∧ 0 ≤ z ∧ z ≤ 100) ↔
      0 < size ∧ 100 * (localSize : ℤ) < 101 * size := by
  have hnum : (0 : ℤ) < localSize * 100 := by omega
  rw [omitEmpty]
  by_cases hzero : size = 0
  · rw [if_pos hzero, downloadProgress]
    refine iff_of_false ?_ (by omega)
    rintro ⟨z, hz, -⟩
    cases hz
  · have hquot : downloadProgress localSize (some size) = .int (Int.fdiv (localSize * 100) size) := by
      rw [downloadProgress]
      exact fun h => hzero h
    rw [if_neg hzero, hquot]
    rcases lt_or_gt_of_ne hzero with hneg | hsize
    · refine iff_of_false ?_ (by omega)
      rintro ⟨z, hz, hnonneg, -⟩
      cases hz
      exact absurd (fdiv_neg_of_pos_of_neg hnum hneg) (not_lt.mpr hnonneg)
    · rw [Int.fdiv_eq_ediv_of_nonneg _ hsize.le]
      have hle : (localSize : ℤ) * 100 / size ≤ 100 ↔ (localSize : ℤ) * 100 < 101 * size := by
        rw [← Int.lt_add_one_iff, Int.ediv_lt_iff_lt_mul hsize]
        omega
      constructor
      · rintro ⟨z, hz, -, hz100⟩
        cases hz
        exact ⟨hsize, by have := hle.mp hz100; omega⟩
      · rintro ⟨-, hlt⟩
        exact ⟨_, rfl, Int.ediv_nonneg hnum.le hsize.le, hle.mpr (by omega)⟩

/-- The progress that `parse` computes of a payload. -/
lemma parse_downloadProgress (lib : Libraries) (pkg : SnapPkg) :
    (parse lib pkg.encode).response.downloadProgress =
      if 0 < pkg.state.localSize.toNat then
        some (downloadProgress pkg.state.localSize.toNat (omitEmpty 0 pkg.downloadSize.toInt))
      else none := by
  simp only [parse, SnapPkg.encode, Option.bind_some, omitEmpty]
  by_cases hzero : pkg.state.localSize.toNat = 0
  · simp [hzero]
  · simp [hzero, Nat.pos_of_ne_zero hzero]

/-- A payload shows a percentage if its local size is zero, or fits its download size. -/
lemma showsPercent_parse_iff (lib : Libraries) (pkg : SnapPkg) :
    ShowsPercent (parse lib pkg.encode).response ↔
      (0 < pkg.state.localSize.toNat →
        0 < pkg.downloadSize.toInt ∧
          100 * (pkg.state.localSize.toNat : ℤ) < 101 * pkg.downloadSize.toInt) := by
  have hlocal : (parse lib pkg.encode).response.state.bind (·.localSize)
      = omitEmpty 0 pkg.state.localSize.toNat := rfl
  rw [ShowsPercent, hlocal, parse_downloadProgress, omitEmpty]
  by_cases hpos : 0 < pkg.state.localSize.toNat
  · have hne : pkg.state.localSize.toNat ≠ 0 := hpos.ne'
    rw [if_neg hne, if_pos hpos]
    rw [← downloadProgress_percent_iff hpos, imp_iff_right hpos]
    constructor
    · intro h
      obtain ⟨z, hz, hrange⟩ := h _ rfl hpos
      exact ⟨z, Option.some.inj hz, hrange⟩
    · rintro ⟨z, hz, hrange⟩ localSize - -
      exact ⟨z, congrArg some hz, hrange⟩
  · have hzero : pkg.state.localSize.toNat = 0 := Nat.eq_zero_of_not_pos hpos
    rw [if_pos hzero]
    exact iff_of_true nofun (fun h => absurd h hpos)

end Client

/-- **When progress is a percentage.**  Let a snap be tracked, and its operation run as a change that
snapd reports.  The progress that the client computes of the payload is an integer between 0 and 100,
if it computes one, exactly if no size is reported of the operation while it runs, or the snap is not
installed and the size is at most about its download size. -/
theorem progress_percent_iff (lib : Client.Libraries) (env : Surroundings) (sv : Server)
    (ht : sv.stateTracker.Reachable) (snap : Snap) (e : SnapState)
    (he : sv.stateTracker.lookup snap.name = some e) (change : Change)
    (hchange : env.client.change e.changeID = .ok (some change)) :
    Client.ShowsPercent (Client.parse lib (snapToPayload env sv snap).1.encode).response ↔
      (hasOperationCompleted e.status snap = false → ∀ size, reportedSize change.tasks = some size →
        isInstalled snap = false ∧ 0 < snap.downloadSize.toInt ∧
          100 * (size.toNat : ℤ) < 101 * snap.downloadSize.toInt) := by
  rw [Client.showsPercent_parse_iff, snapToPayload_state, snapToPayload_downloadSize]
  by_cases hdone : hasOperationCompleted e.status snap = true
  · rw [StateTracker.state_of_completed _ he hdone, hdone]
    exact iff_of_true (fun h => (Nat.lt_irrefl 0 h).elim) nofun
  · have hrun : hasOperationCompleted e.status snap = false := Bool.eq_false_iff.mpr hdone
    obtain ⟨op, changeID, rfl⟩ := ht.tracking _ _ he
    rw [StateTracker.state_progress he hrun hchange, imp_iff_right hrun]
    simp only [stateFromTrackerState, scanTasks_localSize]
    rcases hsize : reportedSize change.tasks with _ | size
    · exact iff_of_true (fun h => (Nat.lt_irrefl 0 h).elim) nofun
    · have hpos := reportedSize_pos hsize
      simp only [Option.getD_some, Option.some.injEq, forall_eq', imp_iff_right hpos]
      by_cases hinst : isInstalled snap = true
      · rw [if_pos hinst, hinst]
        exact iff_of_false (fun h => absurd h.1 (by decide)) nofun
      · rw [if_neg hinst, and_iff_right (Bool.eq_false_iff.mpr hinst)]

/-- The surroundings of a request when snapd knows one snap, and reports a task of any change. -/
def Surroundings.reporting (snap : Snap) (task : Task) : Surroundings :=
  { Surroundings.knowing snap with
    client := { SnapdClient.knowing snap "1" with change := fun _ => .ok (some ⟨[task]⟩) } }

/-- A task that has done a part of what it does. -/
def partDone : Task := { status := doingStatus, summary := "", progress := ⟨40, 100⟩ }

/-- A part of `hello-world` has been downloaded. -/
theorem download_progress_percent :
    let snap : Snap := { helloWorld "available" with downloadSize := 100 }
    let sv : Server := { Server.start "" ∅ with
      stateTracker := StateTracker.new.trackInstall "1" snap }
    Client.ShowsPercent (Client.parse plainLibraries
        (snapToPayload (.reporting snap partDone) sv snap).1.encode).response ↔
      (hasOperationCompleted .installing snap = false →
        ∀ size, reportedSize [partDone] = some size →
          isInstalled snap = false ∧ 0 < snap.downloadSize.toInt ∧
            100 * (size.toNat : ℤ) < 101 * snap.downloadSize.toInt) :=
  progress_percent_iff plainLibraries (.reporting { helloWorld "available" with downloadSize := 100 }
    partDone) _ (.track .install "1" { helloWorld "available" with downloadSize := 100 } .new)
    { helloWorld "available" with downloadSize := 100 } { status := .installing, changeID := "1" }
    (by decide) ⟨[partDone]⟩ rfl

/-- The payload of a snap that is being removed has no download size to divide by. -/
theorem removal_has_no_progress :
    ¬ ∀ (lib : Client.Libraries) (env : Surroundings) (sv : Server) (snap : Snap) (e : SnapState)
      (change : Change), sv.stateTracker.Reachable → sv.stateTracker.lookup snap.name = some e →
      env.client.change e.changeID = .ok (some change) →
      (∀ task ∈ change.tasks, 0 ≤ task.progress.done ∧ task.progress.done ≤ task.progress.total) →
      Client.ShowsPercent (Client.parse lib (snapToPayload env sv snap).1.encode).response := by
  intro h
  have hpercent := h plainLibraries (.reporting (helloWorld "active") partDone)
    { Server.start "" ∅ with
      stateTracker := StateTracker.new.trackUninstall "1" (helloWorld "active") }
    (helloWorld "active") { status := .uninstalling, changeID := "1" } ⟨[partDone]⟩
    (.track .uninstall "1" (helloWorld "active") .new) (by decide) rfl
    (List.forall_mem_singleton.mpr ⟨by decide, by decide⟩)
  obtain ⟨z, hz, -⟩ := hpercent 40 (by decide) (by decide)
  have hnan : some JSNumber.nan = some (.int z) := hz
  cases hnan

end Snapweb
