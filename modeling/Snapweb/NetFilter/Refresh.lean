import Snapweb.Core.Machine
import Snapweb.NetFilter.FilterHandler

/-!
# Refreshing the local networks

A request that is not allowed at first makes the filter take in the networks of the machine's
interfaces, whether it has them already or not.  While the interfaces stay as they are, the first
refresh takes in all that there is; the later ones take in the same again.

* `refreshed_once_iff` — when the list stays as the first refresh has left it, and its length is
  bounded.
* `denied_requests_grow_list` — two requests of one client that is refused.
-/

namespace Snapweb

namespace NetFilter

/-- The filter, and whether a request has refreshed it. -/
structure Refreshed where
  filter : NetFilter
  refreshed : Bool

variable (text : AddressText) (ifs : Interfaces)

/-- Requests from addresses, with the interfaces of the machine as they are. -/
def refreshMachine : Machine Refreshed String where
  next s remoteAddr := some
    { filter := (s.filter.filterHandler text ⟨remoteAddr, ifs⟩).2
      refreshed := s.refreshed || decide (Refreshes text s.filter ⟨remoteAddr, ifs⟩) }

/-- After the first refresh the list stays as it is, and it never has more than `configured` networks
and the local ones.  (What is configured is what the filter has before the first refresh; by default
that is nothing, and the filter is refreshed when it is made.) -/
def RefreshedOnce (configured : ℕ) (s : Refreshed) (_ : String) (s' : Refreshed) : Prop :=
  (s.refreshed = true → s'.filter.allowedNetworks = s.filter.allowedNetworks) ∧
    s'.filter.allowedNetworks.length
      ≤ configured + (localNetworks text.toNetworkText ifs).length

/-- After the first refresh a request is allowed at first, or there is nothing to take in. -/
def AllowedAfterRefresh (s : Refreshed) (remoteAddr : String) (_ : Refreshed) : Prop :=
  s.refreshed = true → Refreshes text s.filter ⟨remoteAddr, ifs⟩ →
    localNetworks text.toNetworkText ifs = []

/-- The list has grown by the local networks at most, and not before a refresh. -/
def GrownOnce (configured : ℕ) (s : Refreshed) : Prop :=
  s.filter.allowedNetworks.length
    ≤ configured + if s.refreshed then (localNetworks text.toNetworkText ifs).length else 0

variable {text ifs} {configured : ℕ} {s s' : Refreshed} {remoteAddr : String}

/-- What a request does to the list. -/
lemma refreshMachine_networks (h : (refreshMachine text ifs).next s remoteAddr = some s') :
    s'.filter.allowedNetworks = s.filter.allowedNetworks ++
      (if Refreshes text s.filter ⟨remoteAddr, ifs⟩ then localNetworks text.toNetworkText ifs else []) ∧
    s'.refreshed = (s.refreshed || decide (Refreshes text s.filter ⟨remoteAddr, ifs⟩)) := by
  cases h
  exact ⟨filterHandler_allowedNetworks text s.filter ⟨remoteAddr, ifs⟩, rfl⟩

/-- One request keeps the list and its bound exactly where it is allowed at first, or nothing has
been taken in before, or there is nothing to take in. -/
lemma refreshedOnce_iff (hgrown : GrownOnce text ifs configured s)
    (h : (refreshMachine text ifs).next s remoteAddr = some s') :
    RefreshedOnce text ifs configured s remoteAddr s' ↔
      AllowedAfterRefresh text ifs s remoteAddr s' := by
  obtain ⟨hnetworks, -⟩ := refreshMachine_networks h
  rw [RefreshedOnce, AllowedAfterRefresh, hnetworks]
  rw [GrownOnce] at hgrown
  rcases hrefreshed : s.refreshed
  · rw [hrefreshed, if_neg Bool.false_ne_true] at hgrown
    refine iff_of_true ⟨fun h => absurd h Bool.false_ne_true, ?_⟩ fun h => absurd h Bool.false_ne_true
    rw [List.length_append]
    split_ifs
    · omega
    · rw [List.length_nil]
      omega
  · rw [hrefreshed, if_pos rfl] at hgrown
    by_cases hrefresh : Refreshes text s.filter ⟨remoteAddr, ifs⟩
    · rw [if_pos hrefresh]
      constructor
      · exact fun hkeeps _ _ => List.append_right_eq_self.mp (hkeeps.1 rfl)
      · intro hnone
        rw [hnone rfl hrefresh, List.append_nil]
        exact ⟨fun _ => rfl, by rw [hnone rfl hrefresh] at hgrown; exact hgrown⟩
    · rw [if_neg hrefresh, List.append_nil]
      exact iff_of_true ⟨fun _ => rfl, hgrown⟩ fun _ hyes => absurd hyes hrefresh

/-- A request that keeps the list keeps its bound. -/
lemma GrownOnce.next (hgrown : GrownOnce text ifs configured s)
    (h : (refreshMachine text ifs).next s remoteAddr = some s')
    (hkeeps : RefreshedOnce text ifs configured s remoteAddr s') :
    GrownOnce text ifs configured s' := by
  obtain ⟨hnetworks, hflag⟩ := refreshMachine_networks h
  rw [GrownOnce]
  rcases hrefreshed' : s'.refreshed
  · -- no request has refreshed the filter
    rw [hrefreshed', Eq.comm, Bool.or_eq_false_iff, decide_eq_false_iff_not] at hflag
    rw [GrownOnce, hflag.1] at hgrown
    rw [hnetworks, if_neg hflag.2, List.append_nil]
    exact hgrown
  · exact hkeeps.2

/-- A run keeps the list and its bound exactly where each request is allowed at first, or nothing has
been taken in before, or there is nothing to take in. -/
lemma along_refreshedOnce_iff (hgrown : GrownOnce text ifs configured s) (remoteAddrs : List String) :
    (refreshMachine text ifs).Along (RefreshedOnce text ifs configured) s remoteAddrs ↔
      (refreshMachine text ifs).Along (AllowedAfterRefresh text ifs) s remoteAddrs :=
  Machine.along_congr (I := GrownOnce text ifs configured)
    (fun _ _ _ hgrown h => refreshedOnce_iff hgrown h)
    (fun _ _ _ hgrown h hkeeps => hgrown.next h hkeeps) hgrown remoteAddrs

/-- The default filter has the local networks, and no others. -/
lemma grownOnce_default {config : Config} (hnetworks : config.allowNetworks = [])
    (hinterfaces : config.allowInterfaces = []) {f : NetFilter}
    (hf : newFilterHandlerFromConfig text config ifs = some f) :
    GrownOnce text ifs 0 ⟨f, true⟩ := by
  have hdefault : (new.addLocalNetworks text.toNetworkText ifs).allowedNetworks
      = localNetworks text.toNetworkText ifs := by
    rw [addLocalNetworks_eq]
    rfl
  simp only [newFilterHandlerFromConfig, hnetworks, hinterfaces] at hf
  split_ifs at hf
  · cases hf
    show (new.addLocalNetworks text.toNetworkText ifs).allowedNetworks.length
      ≤ 0 + (localNetworks text.toNetworkText ifs).length
    rw [hdefault]
    omega
  · rename_i hnone
    exact absurd ⟨rfl, rfl⟩ hnone

/-- **Refreshing once.**  In a run of requests, while the interfaces stay as they are, the list stays
as the first refresh leaves it and has no more than the networks at first and the local ones, exactly
if after that refresh every request is allowed at first (or there are no local networks).  The same
holds for a default filter, where nothing is configured and the first refresh is that of its making. -/
theorem refreshed_once_iff (text : AddressText) (ifs : Interfaces) (f : NetFilter)
    (remoteAddrs : List String) :
    ((refreshMachine text ifs).Along (RefreshedOnce text ifs f.allowedNetworks.length) ⟨f, false⟩
        remoteAddrs ↔
      (refreshMachine text ifs).Along (AllowedAfterRefresh text ifs) ⟨f, false⟩ remoteAddrs) ∧
    ∀ config : Config, config.allowNetworks = [] → config.allowInterfaces = [] →
      newFilterHandlerFromConfig text config ifs = some f →
      ((refreshMachine text ifs).Along (RefreshedOnce text ifs 0) ⟨f, true⟩ remoteAddrs ↔
        (refreshMachine text ifs).Along (AllowedAfterRefresh text ifs) ⟨f, true⟩ remoteAddrs) := by
  refine ⟨along_refreshedOnce_iff (Nat.le_refl _) remoteAddrs, ?_⟩
  intro config hnetworks hinterfaces hf
  exact along_refreshedOnce_iff (grownOnce_default hnetworks hinterfaces hf) remoteAddrs

/-- The texts that the requests of an outsider meet. -/
def outsiderTexts : AddressText :=
  { fewTexts with
    splitHost := fun s => if s = "203.0.113.9:4711" then "203.0.113.9" else ""
    parseIP := fun s =>
      if s = "203.0.113.9" then some ⟨Net.v4InV6Prefix ++ [203, 0, 113, 9], rfl⟩ else none }

/-- A client outside of all networks asks twice, and `10.0.0.0/8` is in the list twice. -/
theorem denied_requests_grow_list :
    ¬ ∀ (text : AddressText) (ifs : Interfaces) (f : NetFilter) (remoteAddrs : List String),
      (refreshMachine text ifs).Along (RefreshedOnce text ifs f.allowedNetworks.length) ⟨f, false⟩
        remoteAddrs := by
  intro h
  have hrun := h outsiderTexts machineAtTen new (["203.0.113.9:4711"] ++ ["203.0.113.9:4711"])
  have hlast := (Machine.Along.last hrun rfl rfl).2
  exact absurd hlast (by decide)

end NetFilter

end Snapweb
