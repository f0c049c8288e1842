import Mathlib.Data.List.Perm.Basic
import Snapweb.Core.JSON
import Snapweb.TimeInfo.Timesyncd

/-!
# Setting the time

`datetime.go`: `setTimeInfo` gets a PATCH request, decoded to a map, and each of its recognised keys
asks for an update: a call to `timedated` over D-Bus, or a change of the NTP servers.  Go goes
through a map in any order, so a patch is the list of its entries in the order in which they come up.

The loop returns after a call, and goes on after the servers.

* `setTimeInfo_performs_all` — when every update that a patch asks for is made.
* `setTimeInfo_refuses` — when a patch is refused, and nothing has been done.
-/

namespace Snapweb

open Ini

variable {β ν : Type*}

/-- What `timedated` is called with: the values that D-Bus has for the three verbs. -/
inductive DBusValue
  | bool (b : Bool)
  | int64 (n : Int64)
  | string (s : String)
  deriving DecidableEq, Repr

/-- A call to `org.freedesktop.timedate1`. -/
structure TimedateCall where
  verb : String
  value : DBusValue
  deriving DecidableEq, Repr

/-- An update of the time information: a call, or a change of the NTP servers. -/
inductive TimeUpdate
  | call (c : TimedateCall)
  | ntpServer (name : String)
  deriving DecidableEq, Repr

/-- What a patch finds. -/
structure TimeEnv (β ν : Type*) where
  lib : Library β
  /-- How a save of the configuration ends. -/
  save : SaveResult
  /-- The error of `dbus.SystemBus`. -/
  systemBus : Option Error
  /-- The error that a call returns. -/
  reply : TimedateCall → Option Error
  /-- The conversion of a number of seconds to microseconds. -/
  usec : ν → Int64

/-- The configuration file, and the updates so far: the calls made, and the runs of
`writeNTPServer`. -/
structure TimeWorld (β : Type*) where
  conf : Option (List β)
  updates : List TimeUpdate

namespace TimeWorld

/-- `updateTimeDate`. -/
def updateTimeDate (env : TimeEnv β ν) (w : TimeWorld β) (verb : String) (v : DBusValue) :
    Outcome × TimeWorld β :=
  match env.systemBus with
  | some err => (.error err, w)
  | none => (.ofError (env.reply ⟨verb, v⟩), { w with updates := w.updates ++ [.call ⟨verb, v⟩] })

/-- The world after `writeNTPServer`. -/
def writtenServer (env : TimeEnv β ν) (w : TimeWorld β) (name : String) : TimeWorld β :=
  { conf := (writeNTPServer env.lib env.save w.conf name).2
    updates := w.updates ++ [.ntpServer name] }

/-- `setTimeInfo`, over the entries that are left. -/
def setTimeInfo (env : TimeEnv β ν) (w : TimeWorld β) :
    List (String × JSON ν) → Outcome × TimeWorld β
  | [] => (.ok, w)
  | (k, v) :: patch =>
      if k = "ntp" then
        match v with
        | .bool ntp => w.updateTimeDate env "SetNTP" (.bool ntp)
        | _ => (.error "Invalid NTP flag value type", w)
      else if k = "ntpServer" then
        match v with
        | .string name =>
            match (writeNTPServer env.lib env.save w.conf name).1 with
            | some err => (.error err, w.writtenServer env name)
            | none => (w.writtenServer env name).setTimeInfo env patch
        | _ => (.panic, w)
      else if k = "dateTime" then
        match v with
        | .number dateTime => w.updateTimeDate env "SetTime" (.int64 (env.usec dateTime))
        | _ => (.error "Invalid date time option value type", w)
      else if k = "timezone" then
        match v with
        | .string timezone => w.updateTimeDate env "SetTimezone" (.string timezone)
        | _ => (.error "Invalid timezone option value type", w)
      else w.setTimeInfo env patch

end TimeWorld

/-! ## What an entry asks for -/

/-- What an entry of a patch comes to. -/
inductive PatchEntry
  | unrecognised
  | update (u : TimeUpdate)
  | refused (err : Error)
  | panics

/-- What an entry comes to, by its key and the type of its value. -/
def patchEntry (usec : ν → Int64) (e : String × JSON ν) : PatchEntry :=
  if e.1 = "ntp" then
    match e.2 with
    | .bool ntp => .update (.call ⟨"SetNTP", .bool ntp⟩)
    | _ => .refused "Invalid NTP flag value type"
  else if e.1 = "ntpServer" then
    match e.2 with
    | .string name => .update (.ntpServer name)
    | _ => .panics
  else if e.1 = "dateTime" then
    match e.2 with
    | .number dateTime => .update (.call ⟨"SetTime", .int64 (usec dateTime)⟩)
    | _ => .refused "Invalid date time option value type"
  else if e.1 = "timezone" then
    match e.2 with
    | .string timezone => .update (.call ⟨"SetTimezone", .string timezone⟩)
    | _ => .refused "Invalid timezone option value type"
  else .unrecognised

/-- The keys that `setTimeInfo` knows. -/
def recognisedKeys : List String := ["ntp", "ntpServer", "dateTime", "timezone"]

/-- The keys at which `setTimeInfo` returns. -/
def returningKeys : List String := ["ntp", "dateTime", "timezone"]

/-- The update that an entry asks for. -/
def askedUpdate (usec : ν → Int64) (e : String × JSON ν) : Option TimeUpdate :=
  match patchEntry usec e with
  | .update u => some u
  | _ => none

/-- If the key is recognised, the value has the right type. -/
def WellTyped (usec : ν → Int64) (e : String × JSON ν) : Prop :=
  match patchEntry usec e with
  | .unrecognised => True
  | .update _ => True
  | _ => False

section Entries

variable {usec : ν → Int64} {e : String × JSON ν}

lemma patchEntry_eq_unrecognised : patchEntry usec e = .unrecognised ↔ e.1 ∉ recognisedKeys := by
  obtain ⟨k, v⟩ := e
  simp only [patchEntry, recognisedKeys, List.mem_cons, List.not_mem_nil, or_false, not_or]
  split_ifs with h₁ h₂ h₃ h₄
  · cases v <;> simp [h₁]
  · cases v <;> simp [h₂]
  · cases v <;> simp [h₃]
  · cases v <;> simp [h₄]
  · exact iff_of_true rfl ⟨h₁, h₂, h₃, h₄⟩

lemma mem_returningKeys_of_call {c : TimedateCall} (h : patchEntry usec e = .update (.call c)) :
    e.1 ∈ returningKeys := by
  obtain ⟨k, v⟩ := e
  simp only [patchEntry] at h
  simp only [returningKeys, List.mem_cons, List.not_mem_nil, or_false]
  split_ifs at h with h₁ h₂ h₃ h₄
  · exact .inl h₁
  · cases v <;> cases h
  · exact .inr (.inl h₃)
  · exact .inr (.inr h₄)

lemma eq_of_ntpServer {name : String} (h : patchEntry usec e = .update (.ntpServer name)) :
    e = ("ntpServer", .string name) := by
  obtain ⟨k, v⟩ := e
  simp only [patchEntry] at h
  split_ifs at h with h₁ h₂ <;> cases v <;> cases h
  rw [h₂]

lemma mem_recognisedKeys_of_returning {k : String} (h : k ∈ returningKeys) :
    k ∈ recognisedKeys := by
  simp only [returningKeys, recognisedKeys, List.mem_cons, List.not_mem_nil, or_false] at h ⊢
  rcases h with rfl | rfl | rfl <;> decide

lemma mem_returningKeys_of_ne {k : String} (h : k ∈ recognisedKeys) (hne : k ≠ "ntpServer") :
    k ∈ returningKeys := by
  simp only [returningKeys, recognisedKeys, List.mem_cons, List.not_mem_nil, or_false] at h ⊢
  rcases h with h | h | h | h
  · exact .inl h
  · exact absurd h hne
  · exact .inr (.inl h)
  · exact .inr (.inr h)

lemma ne_ntpServer_of_returning {k : String} (h : k ∈ returningKeys) : k ≠ "ntpServer" := by
  rintro rfl
  exact absurd h (by decide)

lemma askedUpdate_eq_none (h : WellTyped usec e) :
    askedUpdate usec e = none ↔ e.1 ∉ recognisedKeys := by
  have hkey : patchEntry usec e = .unrecognised ↔ e.1 ∉ recognisedKeys := patchEntry_eq_unrecognised
  rw [← hkey, askedUpdate]
  rw [WellTyped] at h
  cases hentry : patchEntry usec e with
  | unrecognised => exact iff_of_true rfl rfl
  | update u => exact iff_of_false nofun nofun
  | refused err =>
      rw [hentry] at h
      exact h.elim
  | panics =>
      rw [hentry] at h
      exact h.elim

end Entries

namespace TimeWorld

variable (env : TimeEnv β ν) (w : TimeWorld β)

/-- What one entry does, and what it leaves for the others. -/
lemma setTimeInfo_cons (e : String × JSON ν) (patch : List (String × JSON ν)) :
    w.setTimeInfo env (e :: patch) =
      match patchEntry env.usec e with
      | .unrecognised => w.setTimeInfo env patch
      | .update (.call c) => w.updateTimeDate env c.verb c.value
      | .update (.ntpServer name) =>
          match (writeNTPServer env.lib env.save w.conf name).1 with
          | some err => (.error err, w.writtenServer env name)
          | none => (w.writtenServer env name).setTimeInfo env patch
      | .refused err => (.error err, w)
      | .panics => (.panic, w) := by
  obtain ⟨k, v⟩ := e
  cases v <;> simp only [setTimeInfo, patchEntry] <;> split_ifs <;> rfl

/-! ## When every update is made -/

/-- The update that an entry asks for succeeds. -/
def Succeeds (env : TimeEnv β ν) (conf : Option (List β)) (e : String × JSON ν) : Prop :=
  match patchEntry env.usec e with
  | .update (.call c) => env.systemBus = none ∧ env.reply c = none
  | .update (.ntpServer name) => (writeNTPServer env.lib env.save conf name).1 = none
  | _ => True

/-- The configuration with the server that a patch has, if it has one. -/
def confAfter (env : TimeEnv β ν) (conf : Option (List β)) (patch : List (String × JSON ν)) :
    Option (List β) :=
  match Members.find "ntpServer" patch with
  | some (.string name) => (writeNTPServer env.lib env.save conf name).2
  | _ => conf

/-- Each update that the patch asks for is made once, and nothing else. -/
def PerformsAll (env : TimeEnv β ν) (w : TimeWorld β) (patch : List (String × JSON ν))
    (result : Outcome × TimeWorld β) : Prop :=
  result.1 = .ok ∧
    (∃ us, result.2.updates = w.updates ++ us ∧ us.Perm (patch.filterMap (askedUpdate env.usec))) ∧
    result.2.conf = confAfter env w.conf patch

/-- The entries that the loop comes to. -/
def reached : List (String × JSON ν) → List (String × JSON ν)
  | [] => []
  | e :: es => if e.1 ∈ returningKeys then [e] else e :: reached es

/-- The entries after the one at which the loop returns. -/
def missed : List (String × JSON ν) → List (String × JSON ν)
  | [] => []
  | e :: es => if e.1 ∈ returningKeys then es else missed es

/-- No recognised key comes after one at which the loop returns. -/
def NothingMissed (order : List (String × JSON ν)) : Prop :=
  order.Pairwise fun e f => e.1 ∈ returningKeys → f.1 ∉ recognisedKeys

lemma reached_append_missed (order : List (String × JSON ν)) :
    reached order ++ missed order = order := by
  induction order with
  | nil => rfl
  | cons e es ih =>
      rw [reached, missed]
      split_ifs
      · rfl
      · exact congrArg (e :: ·) ih

lemma nothingMissed_iff (order : List (String × JSON ν)) :
    NothingMissed order ↔ ∀ f ∈ missed order, f.1 ∉ recognisedKeys := by
  induction order with
  | nil => exact iff_of_true List.Pairwise.nil nofun
  | cons e es ih =>
      rw [NothingMissed, List.pairwise_cons, missed]
      split_ifs with h
      · exact ⟨fun hes f hf => hes.1 f hf h, fun hes => ⟨fun f hf _ => hes f hf,
          List.pairwise_of_forall_mem_list fun _ _ f hf _ => hes f hf⟩⟩
      · exact ⟨fun hes => ih.mp hes.2, fun hes => ⟨fun _ _ he => absurd he h, ih.mpr hes⟩⟩

variable {env w}

lemma confAfter_of_not_mem {conf : Option (List β)} {patch : List (String × JSON ν)}
    (h : "ntpServer" ∉ patch.map Prod.fst) : confAfter env conf patch = conf := by
  rw [confAfter, Members.find_eq_none h]

lemma confAfter_cons_of_ne {conf : Option (List β)} {e : String × JSON ν}
    (h : e.1 ≠ "ntpServer") (patch : List (String × JSON ν)) :
    confAfter env conf (e :: patch) = confAfter env conf patch := by
  rw [confAfter, Members.find, if_neg h]
  rfl

/-- Whether an entry without servers succeeds does not depend on the configuration. -/
lemma Succeeds.of_ne {conf conf' : Option (List β)} {e : String × JSON ν} (h : Succeeds env conf e)
    (hne : e.1 ≠ "ntpServer") : Succeeds env conf' e := by
  rw [Succeeds] at h ⊢
  rcases hentry : patchEntry env.usec e with _ | (c | name) | _ | _
  · trivial
  · rw [hentry] at h
    exact h
  · exact absurd (congrArg Prod.fst (eq_of_ntpServer hentry)) hne
  · trivial
  · trivial

/-- What a run of the loop does: the updates of the entries it comes to. -/
lemma setTimeInfo_reached {order : List (String × JSON ν)} (hkeys : (order.map Prod.fst).Nodup)
    (htyped : ∀ e ∈ order, WellTyped env.usec e) (hok : ∀ e ∈ order, Succeeds env w.conf e) :
    w.setTimeInfo env order = (.ok,
      { conf := confAfter env w.conf (reached order)
        updates := w.updates ++ (reached order).filterMap (askedUpdate env.usec) }) := by
  induction order generalizing w with
  | nil => simp [setTimeInfo, reached, confAfter, Members.find]
  | cons e es ih =>
      rw [List.map_cons, List.nodup_cons] at hkeys
      have he := htyped e List.mem_cons_self
      have hsucceeds := hok e List.mem_cons_self
      have htyped' := fun f hf => htyped f (List.mem_cons_of_mem e hf)
      rw [setTimeInfo_cons, reached]
      rw [Succeeds] at hsucceeds
      rw [WellTyped] at he
      rcases hentry : patchEntry env.usec e with _ | (c | name) | _ | _
      · -- the key is not recognised
        have hkey := patchEntry_eq_unrecognised.mp hentry
        have hreturns : e.1 ∉ returningKeys := fun h => hkey (mem_recognisedKeys_of_returning h)
        have hserver : e.1 ≠ "ntpServer" := fun h => hkey (by rw [h]; decide)
        have hasked : askedUpdate env.usec e = none := by rw [askedUpdate, hentry]
        rw [if_neg hreturns, List.filterMap_cons_none hasked, confAfter_cons_of_ne hserver]
        exact ih hkeys.2 htyped' fun f hf => hok f (List.mem_cons_of_mem e hf)
      · -- a call: the loop returns
        have hreturns := mem_returningKeys_of_call hentry
        have hasked : askedUpdate env.usec e = some (.call c) := by rw [askedUpdate, hentry]
        rw [hentry] at hsucceeds
        rw [if_pos hreturns, List.filterMap_cons_some hasked,
          confAfter_cons_of_ne (ne_ntpServer_of_returning hreturns)]
        simp only [updateTimeDate, hsucceeds.1, hsucceeds.2]
        rfl
      · -- the servers: no entry is left that has servers
        have heq := eq_of_ntpServer hentry
        have hreturns : e.1 ∉ returningKeys := fun h => ne_ntpServer_of_returning h (by rw [heq])
        have hasked : askedUpdate env.usec e = some (.ntpServer name) := by rw [askedUpdate, hentry]
        have hes : "ntpServer" ∉ es.map Prod.fst := by rw [heq] at hkeys; exact hkeys.1
        have hreached : "ntpServer" ∉ (reached es).map Prod.fst := by
          intro hmem
          rw [← reached_append_missed es, List.map_append] at hes
          exact hes (List.mem_append_left _ hmem)
        rw [hentry] at hsucceeds
        rw [if_neg hreturns, List.filterMap_cons_some hasked]
        simp only [hsucceeds]
        rw [ih hkeys.2 htyped' fun f hf => (hok f (List.mem_cons_of_mem e hf)).of_ne
          fun h => hes (h ▸ List.mem_map_of_mem (f := Prod.fst) hf)]
        have hconf : confAfter env w.conf (e :: reached es) = (w.writtenServer env name).conf := by
          rw [heq]
          rfl
        rw [confAfter_of_not_mem hreached, hconf, writtenServer, List.append_assoc]
        rfl
      · rw [hentry] at he
        exact he.elim
      · rw [hentry] at he
        exact he.elim

/-- A lookup of the servers does not depend on the order. -/
lemma confAfter_perm {conf : Option (List β)} {patch order : List (String × JSON ν)}
    (hkeys : (patch.map Prod.fst).Nodup) (horder : order.Perm patch) :
    confAfter env conf order = confAfter env conf patch := by
  have hkeys' : (order.map Prod.fst).Nodup := (horder.map Prod.fst).nodup_iff.mpr hkeys
  have hfind : Members.find "ntpServer" order = Members.find "ntpServer" patch := by
    refine Option.ext fun v => ?_
    rw [Members.find_eq_some_iff hkeys', Members.find_eq_some_iff hkeys, horder.mem_iff]
  rw [confAfter, confAfter, hfind]

/-- The loop makes every update exactly if it misses none. -/
lemma performsAll_iff {patch order : List (String × JSON ν)}
    (hkeys : (patch.map Prod.fst).Nodup) (horder : order.Perm patch)
    (htyped : ∀ e ∈ patch, WellTyped env.usec e) (hok : ∀ e ∈ patch, Succeeds env w.conf e) :
    PerformsAll env w patch (w.setTimeInfo env order) ↔ NothingMissed order := by
  have hkeys' : (order.map Prod.fst).Nodup := (horder.map Prod.fst).nodup_iff.mpr hkeys
  rw [setTimeInfo_reached hkeys' (fun e he => htyped e (horder.mem_iff.mp he))
    (fun e he => hok e (horder.mem_iff.mp he)), PerformsAll, nothingMissed_iff]
  have hasked := (reached_append_missed order).symm ▸ horder.filterMap (askedUpdate env.usec)
  rw [List.filterMap_append] at hasked
  constructor
  · rintro ⟨-, ⟨us, hus, hperm⟩, -⟩ f hf
    rw [List.append_cancel_left_eq] at hus
    have hlen := (hperm.trans hasked.symm).length_eq
    rw [← hus, List.length_append] at hlen
    have hnil : (missed order).filterMap (askedUpdate env.usec) = [] :=
      List.eq_nil_of_length_eq_zero (by omega)
    have hmem : f ∈ order := reached_append_missed order ▸ List.mem_append_right _ hf
    exact (askedUpdate_eq_none (htyped f (horder.mem_iff.mp hmem))).mp
      (List.filterMap_eq_nil_iff.mp hnil f hf)
  · intro hmissed
    have hnil : (missed order).filterMap (askedUpdate env.usec) = [] := by
      refine List.filterMap_eq_nil_iff.mpr fun f hf => ?_
      have hmem : f ∈ order := reached_append_missed order ▸ List.mem_append_right _ hf
      exact (askedUpdate_eq_none (htyped f (horder.mem_iff.mp hmem))).mpr (hmissed f hf)
    rw [hnil, List.append_nil] at hasked
    have hserver : "ntpServer" ∉ (missed order).map Prod.fst := by
      intro h
      obtain ⟨f, hf, hkey⟩ := List.mem_map.mp h
      exact hmissed f hf (by rw [hkey]; decide)
    have hconf : confAfter env w.conf (reached order) = confAfter env w.conf order := by
      rw [confAfter, confAfter]
      conv_rhs => rw [← reached_append_missed order]
      rw [Members.find_append, Members.find_eq_none hserver, Option.or_none]
    exact ⟨rfl, ⟨_, rfl, hasked⟩, hconf.trans (confAfter_perm hkeys horder)⟩

/-- Every order misses nothing exactly where there is at most one recognised key. -/
lemma forall_nothingMissed_iff {patch : List (String × JSON ν)}
    (hkeys : (patch.map Prod.fst).Nodup) :
    (∀ order : List (String × JSON ν), order.Perm patch → NothingMissed order) ↔
      (patch.filter fun e => e.1 ∈ recognisedKeys).length ≤ 1 := by
  constructor
  · intro h
    by_contra hlen
    rcases hfilter : patch.filter fun e => e.1 ∈ recognisedKeys with _ | ⟨e, _ | ⟨f, es⟩⟩
    · exact hlen (by rw [hfilter]; exact Nat.zero_le 1)
    · exact hlen (by rw [hfilter]; exact Nat.le_refl 1)
    have hmem : ∀ x ∈ [e, f], x.1 ∈ recognisedKeys := by
      intro x hx
      have hx' : x ∈ patch.filter fun e => e.1 ∈ recognisedKeys := by
        rw [hfilter]
        exact List.mem_append_left es hx
      exact of_decide_eq_true (List.mem_filter.mp hx').2
    have hsub : [e, f].Sublist patch := by
      have hes : (e :: f :: es).Sublist patch := hfilter ▸ List.filter_sublist
      exact (List.sublist_append_left [e, f] es).trans hes
    obtain ⟨rest, hperm⟩ := hsub.exists_perm_append
    have he := hmem e List.mem_cons_self
    have hf := hmem f (List.mem_cons_of_mem e List.mem_cons_self)
    by_cases hreturns : e.1 ∈ returningKeys
    · have hpair := h ([e, f] ++ rest) hperm.symm
      exact (List.pairwise_cons.mp hpair).1 f List.mem_cons_self hreturns hf
    · -- the first is the servers, so the second returns
      have hne : f.1 ≠ e.1 := by
        have hnodup := (hsub.map Prod.fst).nodup hkeys
        exact fun heq => (List.nodup_cons.mp hnodup).1 (List.mem_singleton.mpr heq.symm)
      have hreturns' : f.1 ∈ returningKeys := by
        refine mem_returningKeys_of_ne hf fun heq => hreturns (mem_returningKeys_of_ne he ?_)
        exact fun heq' => hne (heq.trans heq'.symm)
      have hpair := h ([f, e] ++ rest) ((List.Perm.swap e f rest).trans hperm.symm)
      exact (List.pairwise_cons.mp hpair).1 e List.mem_cons_self hreturns' he
  · intro hlen order horder
    refine List.pairwise_iff_forall_sublist.mpr fun {e f} hef he hf => ?_
    have hsub := hef.filter fun e => e.1 ∈ recognisedKeys
    have htwo : ([e, f].filter fun e => e.1 ∈ recognisedKeys) = [e, f] :=
      List.filter_eq_self.mpr (by simp [mem_recognisedKeys_of_returning he, hf])
    have hle := hsub.length_le
    rw [htwo, (horder.filter _).length_eq] at hle
    exact absurd (Nat.le_trans hle hlen) (by simp)

/-- **Which updates are made.**  Let every recognised key of a patch have a value of the right
type, and let every update succeed.  In an order of its entries all updates are made exactly if no
recognised key comes after one at which the loop returns; and they are made in every order exactly
if there is at most one recognised key. -/
theorem setTimeInfo_performs_all (env : TimeEnv β ν) (w : TimeWorld β)
    (patch : List (String × JSON ν)) (hkeys : (patch.map Prod.fst).Nodup)
    (htyped : ∀ e ∈ patch, WellTyped env.usec e) (hok : ∀ e ∈ patch, Succeeds env w.conf e) :
    (∀ order : List (String × JSON ν), order.Perm patch →
        (PerformsAll env w patch (w.setTimeInfo env order) ↔ NothingMissed order)) ∧
      ((∀ order : List (String × JSON ν), order.Perm patch →
          PerformsAll env w patch (w.setTimeInfo env order)) ↔
        (patch.filter fun e => e.1 ∈ recognisedKeys).length ≤ 1) := by
  have hall := fun (order : List (String × JSON ν)) (horder : order.Perm patch) =>
    performsAll_iff hkeys horder htyped hok
  refine ⟨hall, ?_⟩
  rw [← forall_nothingMissed_iff hkeys]
  exact forall₂_congr hall

/-- Everything succeeds. -/
def working : TimeEnv Char ℕ where
  lib := timeLibrary
  save := .done
  systemBus := none
  reply _ := none
  usec n := Int64.ofNat (n * 1000000)

/-- The file lists one server. -/
def listed : TimeWorld Char := ⟨some (writeTime (some "c.org")), []⟩

/-- The patch with which the settings view goes back to the automatic time source. -/
def resetNTP : List (String × JSON ℕ) := [("ntp", .bool true), ("ntpServer", .string "")]

lemma nodup_resetNTP : (resetNTP.map Prod.fst).Nodup := by decide

lemma wellTyped_resetNTP : ∀ e ∈ resetNTP, WellTyped working.usec e := by
  simp [resetNTP, WellTyped, patchEntry]

lemma succeeds_resetNTP : ∀ e ∈ resetNTP, Succeeds working listed.conf e := by
  refine List.forall_mem_cons.mpr ⟨⟨rfl, rfl⟩, List.forall_mem_singleton.mpr ?_⟩
  change (writeNTPServer timeLibrary .done listed.conf "").1 = none
  decide

/-- `setTimeInfo_performs_all`, of the view's patch. -/
theorem setTimeInfo_resetNTP :
    (∀ order : List (String × JSON ℕ), order.Perm resetNTP →
        (PerformsAll working listed resetNTP (listed.setTimeInfo working order) ↔
          NothingMissed order)) ∧
      ((∀ order : List (String × JSON ℕ), order.Perm resetNTP →
          PerformsAll working listed resetNTP (listed.setTimeInfo working order)) ↔
        (resetNTP.filter fun e => e.1 ∈ recognisedKeys).length ≤ 1) :=
  setTimeInfo_performs_all working listed resetNTP nodup_resetNTP wellTyped_resetNTP
    succeeds_resetNTP

/-- Where the flag comes up first, the server is not taken away. -/
theorem ntpServer_not_reset :
    ¬ ∀ (w : TimeWorld Char) (patch order : List (String × JSON ℕ)), (patch.map Prod.fst).Nodup →
      order.Perm patch → (∀ e ∈ patch, WellTyped working.usec e) →
      (∀ e ∈ patch, Succeeds working w.conf e) →
      PerformsAll working w patch (w.setTimeInfo working order) := by
  intro h
  obtain ⟨-, ⟨us, hus, hperm⟩, -⟩ := h listed resetNTP resetNTP nodup_resetNTP (List.Perm.refl _)
    wellTyped_resetNTP succeeds_resetNTP
  have hone : us = [.call ⟨"SetNTP", .bool true⟩] := hus.symm
  rw [hone] at hperm
  exact absurd hperm.length_eq (by decide)

/-! ## When a patch is refused -/

/-- The calls made so far. -/
def calls (w : TimeWorld β) : List TimedateCall :=
  w.updates.filterMap fun u =>
    match u with
    | .call c => some c
    | .ntpServer _ => none

/-- An error is returned, no call has been made, and the configuration is as it was. -/
def RefusedUntouched (w : TimeWorld β) (result : Outcome × TimeWorld β) : Prop :=
  (∃ err, result.1 = .error err) ∧ result.2.calls = w.calls ∧ result.2.conf = w.conf

/-- The loop goes past the entry, and leaves the configuration as it is. -/
def Passes (env : TimeEnv β ν) (conf : Option (List β)) (e : String × JSON ν) : Prop :=
  match patchEntry env.usec e with
  | .unrecognised => True
  | .update (.ntpServer name) => writeNTPServer env.lib env.save conf name = (none, conf)
  | _ => False

/-- The loop returns an error at the entry, makes no call, and leaves the configuration as it is: the
value has the wrong type for a call, or D-Bus cannot be reached, or the servers cannot be written. -/
def Refuses (env : TimeEnv β ν) (conf : Option (List β)) (e : String × JSON ν) : Prop :=
  match patchEntry env.usec e with
  | .refused _ => True
  | .update (.call _) => env.systemBus ≠ none
  | .update (.ntpServer name) => ∃ err, writeNTPServer env.lib env.save conf name = (some err, conf)
  | _ => False

/-- An entry that is refused comes up before any that has an effect, or that panics. -/
def RefusedFirst (env : TimeEnv β ν) (conf : Option (List β)) (order : List (String × JSON ν)) :
    Prop :=
  ∃ before e after, order = before ++ e :: after ∧ (∀ f ∈ before, Passes env conf f) ∧
    Refuses env conf e

lemma refusedFirst_cons (conf : Option (List β)) (e : String × JSON ν)
    (order : List (String × JSON ν)) :
    RefusedFirst env conf (e :: order) ↔
      Refuses env conf e ∨ (Passes env conf e ∧ RefusedFirst env conf order) := by
  constructor
  · rintro ⟨before, f, after, horder, hpasses, hrefuses⟩
    rcases before with _ | ⟨g, before⟩
    · cases horder
      exact .inl hrefuses
    · rw [List.cons_append, List.cons.injEq] at horder
      obtain ⟨rfl, rfl⟩ := horder
      exact .inr ⟨hpasses e List.mem_cons_self, before, f, after, rfl,
        fun g hg => hpasses g (List.mem_cons_of_mem e hg), hrefuses⟩
  · rintro (hrefuses | ⟨hpasses, before, f, after, rfl, hbefore, hrefuses⟩)
    · exact ⟨[], e, order, rfl, nofun, hrefuses⟩
    · exact ⟨e :: before, f, after, rfl, List.forall_mem_cons.mpr ⟨hpasses, hbefore⟩, hrefuses⟩

lemma calls_writtenServer (name : String) : (w.writtenServer env name).calls = w.calls := by
  rw [calls, writtenServer, List.filterMap_append]
  exact List.append_nil _

/-- Entries without servers leave the configuration as it is. -/
lemma conf_setTimeInfo {order : List (String × JSON ν)}
    (h : "ntpServer" ∉ order.map Prod.fst) : (w.setTimeInfo env order).2.conf = w.conf := by
  induction order with
  | nil => rfl
  | cons e es ih =>
      rw [List.map_cons, List.mem_cons, not_or] at h
      rw [setTimeInfo_cons]
      rcases hentry : patchEntry env.usec e with _ | (c | name) | _ | _
      · exact ih h.2
      · simp only [updateTimeDate]
        cases env.systemBus <;> rfl
      · exact absurd (congrArg Prod.fst (eq_of_ntpServer hentry)).symm h.1
      · rfl
      · rfl

/-- The loop at an entry that calls `timedated`. -/
lemma refusedUntouched_call (c : TimedateCall) :
    RefusedUntouched w (w.updateTimeDate env c.verb c.value) ↔ env.systemBus ≠ none := by
  rw [updateTimeDate]
  cases env.systemBus with
  | some err => exact iff_of_true ⟨⟨err, rfl⟩, rfl, rfl⟩ nofun
  | none =>
      refine iff_of_false (fun h => ?_) (fun h => h rfl)
      -- the call has been made
      have hcalls := h.2.1
      rw [calls, calls, List.filterMap_append] at hcalls
      exact absurd (List.append_right_eq_self.mp hcalls) (List.cons_ne_nil _ _)

/-- The loop at an entry with the servers, no other entry having them. -/
lemma refusedUntouched_ntpServer {order : List (String × JSON ν)} (name : String)
    (hserver : "ntpServer" ∉ order.map Prod.fst) :
    RefusedUntouched w
        (match (writeNTPServer env.lib env.save w.conf name).1 with
        | some err => (.error err, w.writtenServer env name)
        | none => (w.writtenServer env name).setTimeInfo env order) ↔
      (∃ err, writeNTPServer env.lib env.save w.conf name = (some err, w.conf)) ∨
        (writeNTPServer env.lib env.save w.conf name = (none, w.conf) ∧
          RefusedUntouched (w.writtenServer env name)
            ((w.writtenServer env name).setTimeInfo env order)) := by
  have hcalls : (w.writtenServer env name).calls = w.calls := calls_writtenServer name
  have hconf : (w.writtenServer env name).conf
      = (writeNTPServer env.lib env.save w.conf name).2 := rfl
  rcases hwrite : writeNTPServer env.lib env.save w.conf name with ⟨_ | err, conf⟩
  · rw [hwrite] at hconf
    simp only [Prod.mk.injEq, true_and, exists_false, false_or, reduceCtorEq, false_and]
    constructor
    · rintro ⟨herr, hcalls', hconf'⟩
      -- the others leave the configuration as it has been written
      rw [conf_setTimeInfo hserver, hconf] at hconf'
      refine ⟨hconf', herr, hcalls'.trans hcalls.symm, ?_⟩
      rw [conf_setTimeInfo hserver]
    · rintro ⟨rfl, herr, hcalls', hconf'⟩
      exact ⟨herr, hcalls'.trans hcalls, hconf'.trans hconf⟩
  · rw [hwrite] at hconf
    simp only [Prod.mk.injEq, reduceCtorEq, false_and, or_false, Option.some.injEq]
    constructor
    · rintro ⟨-, -, hconf'⟩
      exact ⟨err, rfl, hconf.symm.trans hconf'⟩
    · rintro ⟨_, -, hconf'⟩
      exact ⟨⟨err, rfl⟩, hcalls, hconf.trans hconf'⟩

/-- **When a patch is refused.**  Whatever the types of the values are, and in any order of the
entries: an error is returned, without a call made or the configuration changed, exactly if an entry
that is refused comes up before any that has an effect, or that panics. -/
theorem setTimeInfo_refuses (env : TimeEnv β ν) (w : TimeWorld β)
    (order : List (String × JSON ν)) (hkeys : (order.map Prod.fst).Nodup) :
    RefusedUntouched w (w.setTimeInfo env order) ↔ RefusedFirst env w.conf order := by
  induction order generalizing w with
  | nil =>
      refine iff_of_false (fun h => ?_) ?_
      · obtain ⟨err, herr⟩ := h.1
        cases herr
      · rintro ⟨before, e, after, horder, -⟩
        simp at horder
  | cons e es ih =>
      rw [List.map_cons, List.nodup_cons] at hkeys
      rw [setTimeInfo_cons, refusedFirst_cons, Refuses, Passes]
      rcases hentry : patchEntry env.usec e with _ | (c | name) | err | _
      · simp only [false_or, true_and]
        exact ih w hkeys.2
      · simp only [false_and, or_false]
        exact refusedUntouched_call c
      · have hserver : "ntpServer" ∉ es.map Prod.fst := by
          have hkey := hkeys.1
          rw [eq_of_ntpServer hentry] at hkey
          exact hkey
        refine (refusedUntouched_ntpServer name hserver).trans (or_congr_right ?_)
        refine and_congr_right fun hwrite => ?_
        rw [ih (w.writtenServer env name) hkeys.2]
        rw [show (w.writtenServer env name).conf = w.conf from congrArg Prod.snd hwrite]
      · exact iff_of_true ⟨⟨err, rfl⟩, rfl, rfl⟩ (.inl trivial)
      · refine iff_of_false (fun h => ?_) (by simp)
        obtain ⟨err, herr⟩ := h.1
        cases herr

/-- A patch with a flag that is a text, behind the server that is there already. -/
def illTyped : List (String × JSON ℕ) := [("ntpServer", .string "c.org"), ("ntp", .string "on")]

/-- `setTimeInfo_refuses`, of this patch. -/
theorem setTimeInfo_refuses_illTyped :
    RefusedUntouched listed (listed.setTimeInfo working illTyped) := by
  have hkept : Passes working listed.conf ("ntpServer", JSON.string "c.org") := by
    change writeNTPServer timeLibrary .done listed.conf "c.org" = (none, listed.conf)
    decide
  have hrefused : Refuses working listed.conf ("ntp", JSON.string "on") := trivial
  exact (setTimeInfo_refuses working listed illTyped (by decide)).mpr
    ⟨[("ntpServer", .string "c.org")], _, [], rfl, List.forall_mem_singleton.mpr hkept, hrefused⟩

/-- Servers that are not a string make the request panic. -/
theorem ntpServer_null_panics :
    ¬ ∀ (w : TimeWorld Char) (order : List (String × JSON ℕ)), (order.map Prod.fst).Nodup →
      (∃ e ∈ order, ¬ WellTyped working.usec e) →
      RefusedUntouched w (w.setTimeInfo working order) := by
  intro h
  have hnull : ¬ WellTyped working.usec ("ntpServer", JSON.null) := id
  obtain ⟨⟨err, herr⟩, -⟩ := h listed [("ntpServer", .null)] (by decide)
    ⟨_, List.mem_singleton_self _, hnull⟩
  cases herr

end TimeWorld

end Snapweb
