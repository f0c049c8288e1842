import Snapweb.Client.Progress
import Snapweb.Client.SnapEvents

/-!
# What is left of an earlier payload

A payload is merged into the model, and the members that its JSON leaves out keep what an earlier
payload has set.

* `downloadProgress_receive` — what a payload and the handler of the status make of the progress.
* `leftover_iff` — when an attribute has nothing left of an earlier payload.
* `receive_receive_iff` — when none of the attributes has.
* `leftover_download_size` — a size that is left.
-/

namespace Snapweb

/-- A payload that the server can send. -/
def SnapPkg.Sendable (pkg : SnapPkg) : Prop :=
  ∃ (env : Surroundings) (sv : Server) (snap : Snap),
    sv.stateTracker.Reachable ∧ pkg = (snapToPayload env sv snap).1

namespace Client

open Backbone

/-- The payload's status is one in which the model is refreshed. -/
def InTransition (pkg : SnapPkg) : Bool := isTransitional (.str pkg.state.status)

/-- The server reports a size of an operation only while it runs. -/
lemma localSize_of_not_inTransition {pkg : SnapPkg} (hsend : pkg.Sendable)
    (h : InTransition pkg = false) : pkg.state.localSize.toNat = 0 := by
  obtain ⟨env, sv, snap, ht, rfl⟩ := hsend
  rw [InTransition, snapToPayload_status] at h
  rw [snapToPayload_state]
  rcases he : sv.stateTracker.lookup snap.name with _ | e
  · rw [StateTracker.state_of_untracked _ he]
    rfl
  · by_cases hdone : hasOperationCompleted e.status snap = true
    · rw [StateTracker.state_of_completed _ he hdone]
      rfl
    · have hrun : hasOperationCompleted e.status snap = false := Bool.eq_false_iff.mpr hdone
      obtain ⟨op, changeID, rfl⟩ := ht.tracking _ _ he
      rw [(StateTracker.state_of_running _ he hrun).1] at h
      have hmoving : isTransitional (.str op.status.text) = true := by cases op <;> decide
      exact absurd (hmoving.symm.trans h) (by decide)

/-! ## The progress -/

namespace SnapModel

variable {lib : Libraries} {m : SnapModel} {k : Attr}

/-- What the handler of the status writes of the progress. -/
lemma downloadProgress_onStatusChange (o : Obj Attr JSValue) :
    o.applyAll (onStatusChange o) .downloadProgress =
      if isTransitional (o.get .status) then o .downloadProgress else some (.num (.int 0)) := by
  have hprogress : Attr.downloadProgress ∉ widgetAttributes := by decide
  have hrest : ∀ u ∈ [installActionString o, installHTMLClass o, installButtonClass o,
      enableDisableActionString o], u.key ≠ .downloadProgress :=
    fun u hu => ne_of_mem_of_not_mem (key_mem_of_widgets hu) hprogress
  rw [onStatusChange, Obj.applyAll, List.foldl_append, ← Obj.applyAll, ← Obj.applyAll,
    Obj.applyAll_of_ne hrest]
  split_ifs <;> rfl

lemma downloadProgress_set (o : Obj Attr JSValue) :
    (m.set (handlers lib) o).attributes .downloadProgress =
      if m.attributes.get .status ≠ (m.attributes.extend o).get .status ∧
          isTransitional ((m.attributes.extend o).get .status) = false then
        some (.num (.int 0))
      else m.attributes.extend o .downloadProgress := by
  have hsizes : Frames ((handlers lib).drop 1) .downloadProgress := by
    intro c hc o u hu
    simp only [handlers, List.drop_succ_cons, List.drop_zero, List.mem_cons, List.not_mem_nil,
      or_false] at hc
    rcases hc with rfl | rfl <;> cases List.mem_singleton.mp hu
    · exact (by decide : Attr.prettyInstalledSize ≠ .downloadProgress)
    · exact (by decide : Attr.prettyDownloadSize ≠ .downloadProgress)
  refine (m.attributes_set_of_frame_tail o hsizes).trans ?_
  rw [downloadProgress_onStatusChange]
  cases isTransitional ((m.attributes.extend o).get .status) with
  | false => simp only [and_true, Bool.false_eq_true, if_false]
  | true => simp only [if_true, Bool.true_eq_false, and_false, if_false, ite_self]

/-- A payload sets the progress that it has; the handler resets it if the status changes to one in
which the model is not refreshed. -/
lemma downloadProgress_receive (pkg : SnapPkg) :
    (m.receive lib pkg.encode).attributes.get .downloadProgress =
      if m.attributes.get .status ≠ .str pkg.state.status ∧ InTransition pkg = false then
        .num (.int 0)
      else (toObj (parse lib pkg.encode).response .downloadProgress).getD
        (m.attributes.get .downloadProgress) := by
  have hstatus : ((m.setPretty (handlers lib) (parse lib pkg.encode)).attributes.extend
      (toObj (parse lib pkg.encode).response)).get .status = .str pkg.state.status :=
    Obj.get_extend _ _ _
  have hdownload : Attr.status ≠ .prettyDownloadSize := by decide
  have hinstalled : Attr.status ≠ .prettyInstalledSize := by decide
  have hdownload' : Attr.downloadProgress ≠ .prettyDownloadSize := by decide
  have hinstalled' : Attr.downloadProgress ≠ .prettyInstalledSize := by decide
  rw [receive, Obj.get, downloadProgress_set, hstatus,
    get_setPretty quietTexts_handlers hdownload hinstalled, InTransition]
  split_ifs
  · rfl
  · rw [← Obj.get, Obj.get_extend,
      get_setPretty quietTexts_handlers hdownload' hinstalled']

/-! ## What is left -/

/-- An attribute that no handler writes has nothing left of the first response exactly if the second
has it, or the first has not changed it. -/
lemma leftover_iff (h : k ∉ writtenByHandlers) (r₁ r₂ : Attributes) :
    ((m.receive lib r₁).receive lib r₂).attributes.get k = (m.receive lib r₂).attributes.get k ↔
      (toObj (parse lib r₂).response k = none →
        (toObj (parse lib r₁).response k).getD (m.attributes.get k) = m.attributes.get k) := by
  rw [get_receive h, get_receive h, get_receive h]
  cases toObj (parse lib r₂).response k with
  | none => exact (imp_iff_right rfl).symm
  | some v => exact iff_of_true rfl fun h => absurd h (Option.some_ne_none v)

end SnapModel

/-- No member is `undefined`. -/
lemma toObj_ne_undefined (r : Attributes) (k : Attr) : toObj r k ≠ some .undefined := by
  cases k <;> simp [toObj]

lemma omitEmpty_eq_none_iff {α : Type} [DecidableEq α] {zero a : α} :
    omitEmpty zero a = none ↔ a = zero := by
  rw [omitEmpty]
  split_ifs with h
  · exact iff_of_true rfl h
  · exact iff_of_false not_false h

section Fresh

variable (lib : Libraries) {id : String} {k : Attr}

lemma get_fresh (id : String) (k : Attr) :
    (SnapModel.fresh id).attributes.get k
      = (defaults.extend (toObj { id := some id }) k).getD .undefined :=
  SnapModel.get_construct _

/-- The same for an attribute that a fresh model does not have. -/
lemma leftover_iff_of_undefined (h : k ∉ writtenByHandlers)
    (hfresh : (SnapModel.fresh id).attributes.get k = .undefined) (r₁ r₂ : Attributes) :
    (((SnapModel.fresh id).receive lib r₁).receive lib r₂).attributes.get k
        = ((SnapModel.fresh id).receive lib r₂).attributes.get k ↔
      (toObj (parse lib r₂).response k = none → toObj (parse lib r₁).response k = none) := by
  rw [SnapModel.leftover_iff h, hfresh]
  refine imp_congr_right fun _ => ?_
  cases hv : toObj (parse lib r₁).response k with
  | none => exact iff_of_true rfl rfl
  | some v =>
      refine iff_of_false (fun heq => ?_) (Option.some_ne_none v)
      exact toObj_ne_undefined _ k (hv.trans (congrArg some heq))

/-- A fresh model takes the progress of its first payload, or none. -/
lemma downloadProgress_fresh (pkg : SnapPkg) :
    ((SnapModel.fresh id).receive lib pkg.encode).attributes.get .downloadProgress =
      if InTransition pkg = false then .num (.int 0)
      else (toObj (parse lib pkg.encode).response .downloadProgress).getD .undefined := by
  have hstatus : (SnapModel.fresh id).attributes.get .status = .undefined := get_fresh id _
  have hprogress : (SnapModel.fresh id).attributes.get .downloadProgress = .undefined := get_fresh id _
  rw [SnapModel.downloadProgress_receive, hstatus, hprogress]
  simp only [ne_eq, reduceCtorEq, not_false_eq_true, true_and]

lemma toObj_downloadProgress_eq_none_iff (pkg : SnapPkg) :
    toObj (parse lib pkg.encode).response .downloadProgress = none ↔
      pkg.state.localSize.toNat = 0 := by
  rw [toObj, Option.map_eq_none_iff, parse_downloadProgress]
  split_ifs with h
  · exact iff_of_false not_false h.ne'
  · exact iff_of_true rfl (Nat.eq_zero_of_not_pos h)

/-- There is no progress exactly while an operation runs of which no size is reported. -/
lemma downloadProgress_fresh_eq_undefined_iff (id : String) (pkg : SnapPkg) :
    ((SnapModel.fresh id).receive lib pkg.encode).attributes.get .downloadProgress = .undefined ↔
      InTransition pkg = true ∧ pkg.state.localSize.toNat = 0 := by
  rw [downloadProgress_fresh, ← toObj_downloadProgress_eq_none_iff lib]
  cases InTransition pkg with
  | false =>
      rw [if_pos rfl]
      exact iff_of_false (by decide) fun h => Bool.false_ne_true h.1
  | true =>
      rw [if_neg (by decide), and_iff_right rfl]
      cases hv : toObj (parse lib pkg.encode).response .downloadProgress with
      | none => exact iff_of_true rfl rfl
      | some v =>
          refine iff_of_false (fun heq => ?_) (Option.some_ne_none v)
          exact toObj_ne_undefined _ _ (hv.trans (congrArg some heq))

/-- The progress has nothing left exactly if the second payload has no need of one, or has one, or
the first left none. -/
lemma downloadProgress_leftover_iff {p₁ p₂ : SnapPkg} (h₂ : p₂.Sendable) :
    (((SnapModel.fresh id).receive lib p₁.encode).receive lib p₂.encode).attributes.get .downloadProgress
        = ((SnapModel.fresh id).receive lib p₂.encode).attributes.get .downloadProgress ↔
      (InTransition p₂ = true → p₂.state.localSize.toNat = 0 →
        InTransition p₁ = true ∧ p₁.state.localSize.toNat = 0) := by
  have hstatus : ((SnapModel.fresh id).receive lib p₁.encode).attributes.get .status
      = .str p₁.state.status := SnapModel.get_receive (by decide) _
  rw [SnapModel.downloadProgress_receive, downloadProgress_fresh lib p₂, hstatus,
    ← downloadProgress_fresh_eq_undefined_iff lib id p₁,
    ← toObj_downloadProgress_eq_none_iff lib p₂]
  cases htrans : InTransition p₂ with
  | false =>
      refine iff_of_true ?_ fun h => absurd h (by decide)
      have hnone : toObj (parse lib p₂.encode).response .downloadProgress = none :=
        (toObj_downloadProgress_eq_none_iff lib p₂).mpr (localSize_of_not_inTransition h₂ htrans)
      by_cases hsame : p₁.state.status = p₂.state.status
      · -- the first payload has reset it
        have hfirst : InTransition p₁ = false := by rw [InTransition, hsame]; exact htrans
        rw [if_neg fun h => h.1 (congrArg _ hsame), hnone, if_pos rfl, downloadProgress_fresh,
          if_pos hfirst]
        rfl
      · rw [if_pos ⟨fun h => hsame (JSValue.str.inj h), rfl⟩, if_pos rfl]
  | true =>
      simp only [Bool.true_eq_false, and_false, if_false, true_imp_iff]
      cases toObj (parse lib p₂.encode).response .downloadProgress with
      | none => exact (imp_iff_right rfl).symm
      | some v => exact iff_of_true rfl fun h => absurd h (Option.some_ne_none v)

/-- What `parse` makes of the mark that a snap can be installed. -/
lemma parse_isInstallable (pkg : SnapPkg) :
    (parse lib pkg.encode).response.isInstallable =
      if (parse lib pkg.encode).response.isCoreSnap = some true then some false
      else if pkg.state.status = InstallState.priced.text then some true else none := by
  simp only [parse, SnapPkg.encode, Option.map_some, Option.some_inj, decide_eq_true_eq]

/-- The mark has nothing left of another payload of the same snap. -/
lemma isInstallable_leftover {p₁ p₂ : SnapPkg} (hid : p₁.id = p₂.id) (htype : p₁.type = p₂.type) :
    (((SnapModel.fresh id).receive lib p₁.encode).receive lib p₂.encode).attributes.get .isInstallable
      = ((SnapModel.fresh id).receive lib p₂.encode).attributes.get .isInstallable := by
  have hfresh : (SnapModel.fresh id).attributes.get .isInstallable = .bool true := get_fresh id _
  have hcore : (parse lib p₁.encode).response.isCoreSnap
      = (parse lib p₂.encode).response.isCoreSnap := by
    simp only [parse, SnapPkg.encode, hid, htype]
  rw [SnapModel.leftover_iff (by decide), hfresh, toObj, toObj, parse_isInstallable,
    parse_isInstallable, hcore, Option.map_eq_none_iff]
  intro hnone
  by_cases hmark : (parse lib p₂.encode).response.isCoreSnap = some true
  · rw [if_pos hmark] at hnone
    cases hnone
  · rw [if_neg hmark]
    split_ifs <;> rfl

/-- The attributes of a model that are compared. -/
def comparedAttributes : List Attr :=
  [.isInstalled, .isEnabled, .isInstallable, .priced, .isCoreSnap, .price, .installedSize,
    .downloadSize, .downloadProgress]

/-- The models have the same attributes, of those that are compared. -/
def SameAttributes (m m' : SnapModel) : Prop :=
  ∀ k ∈ comparedAttributes, m.attributes.get k = m'.attributes.get k

/-- The second payload has what is set by the first: the mark of a priced snap, the price, the sizes,
and the progress if an operation runs. -/
structure NothingLeft (p₁ p₂ : SnapPkg) : Prop where
  priced : p₁.state.status = InstallState.priced.text → p₂.state.status = InstallState.priced.text
  price : p₂.price = "" → p₁.price = ""
  installedSize : p₂.installedSize.toInt = 0 → p₁.installedSize.toInt = 0
  downloadSize : p₂.downloadSize.toInt = 0 → p₁.downloadSize.toInt = 0
  progress : InTransition p₂ = true → p₂.state.localSize.toNat = 0 →
    InTransition p₁ = true ∧ p₁.state.localSize.toNat = 0

lemma toObj_priced_eq_none_iff (pkg : SnapPkg) :
    toObj (parse lib pkg.encode).response .priced = none ↔
      pkg.state.status ≠ InstallState.priced.text := by
  simp only [toObj, parse, SnapPkg.encode, Option.map_some, Option.some_inj, decide_eq_true_eq]
  split_ifs with h
  · exact iff_of_false (Option.some_ne_none _) (not_not.mpr h)
  · exact iff_of_true rfl h

/-- **What is left of an earlier payload.**  Let there be two payloads of one snap, of which the server
sends the second.  A model that receives both ends with the attributes of a model that receives the
second alone exactly if the second has what the first has set. -/
theorem receive_receive_iff {p₁ p₂ : SnapPkg} (h₂ : p₂.Sendable) (hid : p₁.id = p₂.id)
    (htype : p₁.type = p₂.type) :
    SameAttributes (((SnapModel.fresh p₁.id).receive lib p₁.encode).receive lib p₂.encode)
        ((SnapModel.fresh p₂.id).receive lib p₂.encode) ↔ NothingLeft p₁ p₂ := by
  have hset : ∀ {k : Attr}, k ∉ writtenByHandlers →
      toObj (parse lib p₂.encode).response k ≠ none →
      (((SnapModel.fresh p₂.id).receive lib p₁.encode).receive lib p₂.encode).attributes.get k
        = ((SnapModel.fresh p₂.id).receive lib p₂.encode).attributes.get k :=
    fun h hsome => (SnapModel.leftover_iff h _ _).mpr fun hnone => absurd hnone hsome
  have hpriced := leftover_iff_of_undefined lib (k := .priced) (by decide) (get_fresh p₂.id _)
    p₁.encode p₂.encode
  have hprice := leftover_iff_of_undefined lib (k := .price) (by decide) (get_fresh p₂.id _)
    p₁.encode p₂.encode
  have hinstalled := leftover_iff_of_undefined lib (k := .installedSize) (by decide)
    (get_fresh p₂.id _) p₁.encode p₂.encode
  have hdownload := leftover_iff_of_undefined lib (k := .downloadSize) (by decide)
    (get_fresh p₂.id _) p₁.encode p₂.encode
  rw [toObj_priced_eq_none_iff, toObj_priced_eq_none_iff, not_imp_not] at hpriced
  simp only [toObj, parse, SnapPkg.encode, Option.map_eq_none_iff, omitEmpty_eq_none_iff]
    at hprice hinstalled hdownload
  rw [hid]
  constructor
  · intro h
    exact
      { priced := hpriced.mp (h _ (by decide))
        price := hprice.mp (h _ (by decide))
        installedSize := hinstalled.mp (h _ (by decide))
        downloadSize := hdownload.mp (h _ (by decide))
        progress := (downloadProgress_leftover_iff lib h₂).mp (h _ (by decide)) }
  · intro h k hk
    simp only [comparedAttributes, List.mem_cons, List.not_mem_nil, or_false] at hk
    rcases hk with rfl | rfl | rfl | rfl | rfl | rfl | rfl | rfl | rfl
    · exact hset (by decide) (Option.some_ne_none _)
    · exact hset (by decide) (Option.some_ne_none _)
    · exact isInstallable_leftover lib hid htype
    · exact hpriced.mpr h.priced
    · exact hset (by decide) (Option.some_ne_none _)
    · exact hprice.mpr h.price
    · exact hinstalled.mpr h.installedSize
    · exact hdownload.mpr h.downloadSize
    · exact (downloadProgress_leftover_iff lib h₂).mpr h.progress

end Fresh

/-- `hello-world` in the store, with a size. -/
def storeHelloWorld : Snap := { helloWorld "available" with downloadSize := 100 }

lemma sendable_describe (snap : Snap) : (describe snap).Sendable :=
  ⟨.knowing snap, Server.start "" ∅, snap, .new, rfl⟩

/-- `hello-world` is described twice while it is in the store. -/
theorem receive_store_twice :
    let pkg := describe storeHelloWorld
    SameAttributes (((SnapModel.fresh pkg.id).receive plainLibraries pkg.encode).receive
        plainLibraries pkg.encode)
      ((SnapModel.fresh pkg.id).receive plainLibraries pkg.encode) ↔ NothingLeft pkg pkg :=
  receive_receive_iff plainLibraries (sendable_describe storeHelloWorld) rfl rfl

/-- `hello-world` is described in the store, and then while it is installed: the download size of the
store is left. -/
theorem leftover_download_size :
    ¬ ∀ (lib : Libraries) (p₁ p₂ : SnapPkg), p₁.Sendable → p₂.Sendable → p₁.id = p₂.id →
      p₁.type = p₂.type →
      SameAttributes (((SnapModel.fresh p₁.id).receive lib p₁.encode).receive lib p₂.encode)
        ((SnapModel.fresh p₂.id).receive lib p₂.encode) := by
  intro h
  have hsame := h plainLibraries (describe storeHelloWorld) (describe (helloWorld "installed"))
    (sendable_describe storeHelloWorld) (sendable_describe (helloWorld "installed")) rfl rfl
    .downloadSize (by decide)
  have hleft := (leftover_iff_of_undefined plainLibraries (by decide) (get_fresh _ _) _ _).mp hsame
  exact absurd (hleft (by decide)) (by decide)

end Client

end Snapweb
