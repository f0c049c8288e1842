import Snapweb.Config
import Snapweb.NetFilter.NetFilter

/-!
# The filter handler

`FilterHandler` puts the network filter in front of an HTTP handler, and
`NewFilterHandlerFromConfig` fills the filter from the configuration.  A request from an address
that is not allowed makes the filter take in the networks of the machine's interfaces, as they are
by then, and only if that does not help is it refused: a network that the machine has joined since
the start is allowed, whatever the configuration says.

* `passed_iff` — a request passes exactly if its address is in a network that the filter has after
  serving it.
* `passes_iff_configured_or_local` — which these are: those of the configuration, and the local
  ones at each request so far that was not allowed at first.
* `unconfigured_local_network_passes` — a request from a network that is not configured.
-/

namespace Snapweb

/-- The texts of addresses as well: the host of `net.SplitHostPort`, empty when that fails, and
`net.ParseIP`, which gives sixteen bytes. -/
structure AddressText extends NetworkText where
  splitHost : String → String
  parseIP : String → Option { ip : Net.IP // ip.length = 16 }

/-- A request, as far as the filter looks, and the interfaces of the machine when it is served. -/
structure RemoteRequest where
  remoteAddr : String
  ifs : Interfaces

/-- Is the request handed to the wrapped handler? -/
inductive Verdict
  | passed
  | forbidden
  deriving DecidableEq, Repr

/-- The address of the client. -/
def AddressText.remoteIP (text : AddressText) (r : RemoteRequest) : Option Net.IP :=
  (text.parseIP (text.splitHost r.remoteAddr)).map (·.val)

namespace NetFilter

variable (text : AddressText)

/-- `FilterHandler`. -/
def filterHandler (f : NetFilter) (r : RemoteRequest) : Verdict × NetFilter :=
  let ip := text.remoteIP r
  match f.isAllowed ip with
  | (true, f) => (.passed, f)
  | (false, f) =>
      -- check the networks connected to the device before denying access
      match (f.addLocalNetworks text.toNetworkText r.ifs).isAllowed ip with
      | (true, f) => (.passed, f)
      | (false, f) => (.forbidden, f)

/-- The loop over the configured networks. -/
def allowNetworks (f : NetFilter) (networks : List String) : NetFilter :=
  networks.foldl (fun f net => (f.allowNetwork text.toNetworkText net).1) f

/-- The filter of `NewFilterHandlerFromConfig`; `none` where the handler is not wrapped. -/
def newFilterHandlerFromConfig (config : Config) (ifs : Interfaces) : Option NetFilter :=
  if config.disableIPFilter then none
  else
    let f := new.allowNetworks text config.allowNetworks
    let f := config.allowInterfaces.foldl
      (fun f ifname => f.addLocalNetworkForInterface text.toNetworkText ifs ifname) f
    -- if nothing was specified, default to allowing all local networks
    if config.allowNetworks.length = 0 ∧ config.allowInterfaces.length = 0 then
      some (f.addLocalNetworks text.toNetworkText ifs)
    else some f

/-- The handler as a responder. -/
def serve : Option NetFilter → RemoteRequest → Verdict × Option NetFilter
  | none, _ => (.passed, none)
  | some f, r => ((f.filterHandler text r).1, some (f.filterHandler text r).2)

/-! ## One request -/

/-- The request is not allowed at first, so that the local networks are taken in. -/
def Refreshes (f : NetFilter) (r : RemoteRequest) : Prop :=
  (f.isAllowed (text.remoteIP r)).1 = false

instance (f : NetFilter) (r : RemoteRequest) : Decidable (Refreshes text f r) :=
  inferInstanceAs (Decidable (_ = false))

lemma isAllowed_allowedNetworks (f : NetFilter) (ip : Option Net.IP) :
    (f.isAllowed ip).2.allowedNetworks = f.allowedNetworks := by
  cases ip with
  | none => rfl
  | some ip =>
      simp only [isAllowed]
      split_ifs <;> rfl

/-- The networks after a request: no request takes any away. -/
lemma filterHandler_allowedNetworks (f : NetFilter) (r : RemoteRequest) :
    (f.filterHandler text r).2.allowedNetworks = f.allowedNetworks ++
      if Refreshes text f r then localNetworks text.toNetworkText r.ifs else [] := by
  have hfirst := isAllowed_allowedNetworks f (text.remoteIP r)
  rcases hf : f.isAllowed (text.remoteIP r) with ⟨_ | _, f₁⟩ <;> rw [hf] at hfirst
  · have hrefresh : Refreshes text f r := by rw [Refreshes, hf]
    have hsecond := isAllowed_allowedNetworks (f₁.addLocalNetworks text.toNetworkText r.ifs)
      (text.remoteIP r)
    simp only [filterHandler, hf, if_pos hrefresh]
    rcases hf₂ : (f₁.addLocalNetworks text.toNetworkText r.ifs).isAllowed (text.remoteIP r)
      with ⟨_ | _, f₂⟩ <;> rw [hf₂, addLocalNetworks_eq] at hsecond <;>
      rw [← hfirst] <;> exact hsecond
  · have hallowed : ¬ Refreshes text f r := by simp [Refreshes, hf]
    simp only [filterHandler, hf, if_neg hallowed, List.append_nil]
    exact hfirst

/-- The cached address is in an allowed network. -/
def Sound (f : NetFilter) : Prop := f.Agrees f.allowedNetworks

lemma remoteIP_length (r : RemoteRequest) (x : Net.IP) (h : text.remoteIP r = some x) :
    x.length ≠ 0 := by
  obtain ⟨q, -, rfl⟩ := Option.map_eq_some_iff.mp h
  have := q.property
  omega

lemma Sound.isAllowed {f : NetFilter} (h : f.Sound) (r : RemoteRequest) :
    (f.isAllowed (text.remoteIP r)).1 = uncachedIsAllowed f.allowedNetworks (text.remoteIP r) ∧
      (f.isAllowed (text.remoteIP r)).2.Sound := by
  obtain ⟨hans, hagrees⟩ := isAllowed_of_agrees h _ (remoteIP_length text r)
  refine ⟨hans, ?_⟩
  rw [Sound, isAllowed_allowedNetworks]
  exact hagrees

lemma Sound.addLocalNetworks {f : NetFilter} (h : f.Sound) (t : NetworkText) (ifs : Interfaces) :
    (f.addLocalNetworks t ifs).Sound := by
  rw [addLocalNetworks_eq]
  exact Agrees.append h _

/-- **One request.**  It passes exactly if its address is in a network that the filter has after
serving it. -/
lemma passed_iff {f : NetFilter} (h : f.Sound) (r : RemoteRequest) :
    ((f.filterHandler text r).1 = .passed ↔
      uncachedIsAllowed (f.filterHandler text r).2.allowedNetworks (text.remoteIP r) = true) ∧
    (f.filterHandler text r).2.Sound := by
  obtain ⟨hans, hsound⟩ := h.isAllowed text r
  have hfirst := isAllowed_allowedNetworks f (text.remoteIP r)
  rw [filterHandler]
  rcases hf : f.isAllowed (text.remoteIP r) with ⟨_ | _, f₁⟩ <;> rw [hf] at hans hsound hfirst
  · have hrefreshed := hsound.addLocalNetworks text.toNetworkText r.ifs
    obtain ⟨hans₂, hsound₂⟩ := hrefreshed.isAllowed text r
    have hsecond := isAllowed_allowedNetworks (f₁.addLocalNetworks text.toNetworkText r.ifs)
      (text.remoteIP r)
    dsimp only
    rcases hf₂ : (f₁.addLocalNetworks text.toNetworkText r.ifs).isAllowed (text.remoteIP r)
      with ⟨_ | _, f₂⟩ <;> rw [hf₂] at hans₂ hsound₂ hsecond <;> dsimp only at hans₂ hsecond ⊢ <;>
      rw [hsecond, ← hans₂] <;> exact ⟨by decide, hsound₂⟩
  · dsimp only at hfirst hans ⊢
    rw [hfirst, ← hans]
    exact ⟨by decide, hsound⟩

/-! ## Runs -/

lemma allowNetworks_eq (f : NetFilter) (networks : List String) : f.allowNetworks text networks
    = { f with allowedNetworks := f.allowedNetworks ++ networks.filterMap text.parseCIDR } := by
  rw [allowNetworks]
  induction networks generalizing f with
  | nil => simp
  | cons net rest ih =>
      rw [List.foldl_cons, ih, allowNetwork_fst]
      cases hnet : text.parseCIDR net <;> simp [hnet]

/-- A network that the configuration names, or one of an interface that it names. -/
def Configured (config : Config) (ifs : Interfaces) (n : Net.IPNet) : Prop :=
  (∃ net ∈ config.allowNetworks, text.parseCIDR net = some n) ∨
    ∃ ifname ∈ config.allowInterfaces, n ∈ interfaceNetworks text.toNetworkText ifs ifname

/-- The filter at the start has the configured networks. -/
lemma newFilterHandlerFromConfig_eq {config : Config} (hfilter : config.disableIPFilter = false)
    (hentries : config.allowNetworks ≠ [] ∨ config.allowInterfaces ≠ []) (ifs : Interfaces) :
    ∃ f, newFilterHandlerFromConfig text config ifs = some f ∧ f.Sound ∧
      ∀ n, n ∈ f.allowedNetworks ↔ Configured text config ifs n := by
  have hsome : ¬ (config.allowNetworks.length = 0 ∧ config.allowInterfaces.length = 0) := by
    simpa [List.length_eq_zero_iff, imp_iff_not_or] using hentries
  refine ⟨_, by rw [newFilterHandlerFromConfig, hfilter]; exact if_neg hsome, ?_, fun n => ?_⟩
  · rw [foldl_addLocalNetworkForInterface, allowNetworks_eq]
    exact ⟨rfl, fun ip hip => by cases hip⟩
  · rw [foldl_addLocalNetworkForInterface, allowNetworks_eq]
    simp [new, Configured]

/-- The filter after a list of requests. -/
def filterAfter (f : NetFilter) (rs : List RemoteRequest) : NetFilter :=
  rs.foldl (fun f r => (f.filterHandler text r).2) f

lemma after_serve (f : NetFilter) (rs : List RemoteRequest) :
    Responder.after (serve text) (some f) rs = some (filterAfter text f rs) := by
  induction rs generalizing f with
  | nil => rfl
  | cons r rs ih => exact ih _

/-- A network that a request of the list made the filter take in. -/
def TakenIn (f : NetFilter) (rs : List RemoteRequest) (n : Net.IPNet) : Prop :=
  ∃ earlier r later, rs = earlier ++ r :: later ∧ Refreshes text (filterAfter text f earlier) r ∧
    n ∈ localNetworks text.toNetworkText r.ifs

lemma takenIn_cons {f : NetFilter} {r : RemoteRequest} {rs : List RemoteRequest} {n : Net.IPNet} :
    TakenIn text f (r :: rs) n ↔
      (Refreshes text f r ∧ n ∈ localNetworks text.toNetworkText r.ifs) ∨
        TakenIn text (f.filterHandler text r).2 rs n := by
  constructor
  · rintro ⟨_ | ⟨r₀, earlier⟩, r', later, hsplit, hrefresh, hn⟩
    · injection hsplit with hr hrs
      subst hr
      exact .inl ⟨hrefresh, hn⟩
    · injection hsplit with hr hrs
      subst hr
      exact .inr ⟨earlier, r', later, hrs, hrefresh, hn⟩
  · rintro (⟨hrefresh, hn⟩ | ⟨earlier, r', later, hsplit, hrefresh, hn⟩)
    · exact ⟨[], r, rs, rfl, hrefresh, hn⟩
    · exact ⟨r :: earlier, r', later, by rw [hsplit]; rfl, hrefresh, hn⟩

/-- Every list of requests leaves the networks there were, and those that it made the filter take
in. -/
lemma filterAfter_spec {f : NetFilter} (h : f.Sound) (rs : List RemoteRequest) :
    (filterAfter text f rs).Sound ∧
      ∀ n, n ∈ (filterAfter text f rs).allowedNetworks ↔ n ∈ f.allowedNetworks ∨ TakenIn text f rs n := by
  induction rs generalizing f with
  | nil =>
      refine ⟨h, fun n => ⟨.inl, ?_⟩⟩
      rintro (hn | ⟨earlier, r, later, hsplit, -⟩)
      · exact hn
      · simp at hsplit
  | cons r rs ih =>
      obtain ⟨hsound, hmem⟩ := ih (passed_iff text h r).2
      refine ⟨hsound, fun n => ?_⟩
      have hstep : n ∈ (f.filterHandler text r).2.allowedNetworks ↔ n ∈ f.allowedNetworks ∨
          (Refreshes text f r ∧ n ∈ localNetworks text.toNetworkText r.ifs) := by
        rw [filterHandler_allowedNetworks, List.mem_append]
        split_ifs with hrefresh <;> simp [hrefresh]
      rw [takenIn_cons, ← or_assoc, ← hstep]
      exact hmem n

/-- **Which requests pass.**  Let the configuration name networks or interfaces.  After any
requests, a request passes exactly if its address is in a network that is configured, or in a
loopback or IPv4 network of the machine's interfaces as they were at a request, this one or an
earlier one, that was not allowed at first. -/
theorem passes_iff_configured_or_local {config : Config} (hfilter : config.disableIPFilter = false)
    (hentries : config.allowNetworks ≠ [] ∨ config.allowInterfaces ≠ []) (ifs : Interfaces)
    (before : List RemoteRequest) (r : RemoteRequest) :
    ∃ f, newFilterHandlerFromConfig text config ifs = some f ∧
      ((serve text (Responder.after (serve text) (some f) before) r).1 = .passed ↔
        ∃ ip, text.remoteIP r = some ip ∧ ∃ n, n.contains ip = true ∧
          (Configured text config ifs n ∨ TakenIn text f (before ++ [r]) n)) := by
  obtain ⟨f, hf, hsound, hconfigured⟩ := newFilterHandlerFromConfig_eq text hfilter hentries ifs
  refine ⟨f, hf, ?_⟩
  obtain ⟨hpassed, -⟩ := passed_iff text (filterAfter_spec text hsound before).1 r
  have hlast : ((filterAfter text f before).filterHandler text r).2
      = filterAfter text f (before ++ [r]) := by
    rw [filterAfter, filterAfter, List.foldl_append]
    rfl
  obtain ⟨-, hmem⟩ := filterAfter_spec text hsound (before ++ [r])
  rw [after_serve]
  change ((filterAfter text f before).filterHandler text r).1 = .passed ↔ _
  rw [hpassed, hlast]
  simp only [← hconfigured, ← hmem]
  cases text.remoteIP r with
  | none => simp [uncachedIsAllowed]
  | some ip => simp [uncachedIsAllowed, and_comm]

/-- A machine at `10.0.0.5`, in a network of its own. -/
def machineAtTen : Interfaces :=
  { interfaces := some ["eth0"]
    addrs := fun ifname =>
      if ifname = "eth0" then some [.ipNet ⟨Net.v4InV6Prefix ++ [10, 0, 0, 5], [255, 0, 0, 0]⟩]
      else none }

/-- The texts that the requests below meet. -/
def fewTexts : AddressText where
  parseCIDR s :=
    if s = "192.168.0.0/24" then some ⟨[192, 168, 0, 0], [255, 255, 255, 0]⟩
    else if s = "10.0.0.5/8" then some ⟨[10, 0, 0, 0], [255, 0, 0, 0]⟩
    else none
  string n := if n = ⟨Net.v4InV6Prefix ++ [10, 0, 0, 5], [255, 0, 0, 0]⟩ then "10.0.0.5/8" else ""
  splitHost s :=
    if s = "10.1.2.3:80" then "10.1.2.3" else if s = "192.168.0.7:80" then "192.168.0.7" else ""
  parseIP s :=
    if s = "10.1.2.3" then some ⟨Net.v4InV6Prefix ++ [10, 1, 2, 3], rfl⟩
    else if s = "192.168.0.7" then some ⟨Net.v4InV6Prefix ++ [192, 168, 0, 7], rfl⟩
    else none

/-- One network is configured. -/
def homeNetworkOnly : Config := { allowNetworks := ["192.168.0.0/24"] }

/-- A request from the configured network passes. -/
theorem configured_network_passes :
    ∃ f, newFilterHandlerFromConfig fewTexts homeNetworkOnly machineAtTen = some f ∧
      (serve fewTexts (Responder.after (serve fewTexts) (some f) [])
        ⟨"192.168.0.7:80", machineAtTen⟩).1 = .passed := by
  obtain ⟨f, hf, hiff⟩ := passes_iff_configured_or_local fewTexts
    (rfl : homeNetworkOnly.disableIPFilter = false) (.inl (by decide)) machineAtTen []
    ⟨"192.168.0.7:80", machineAtTen⟩
  refine ⟨f, hf, hiff.mpr ?_⟩
  exact ⟨Net.v4InV6Prefix ++ [192, 168, 0, 7], rfl, ⟨[192, 168, 0, 0], [255, 255, 255, 0]⟩,
    by decide, .inl (.inl ⟨"192.168.0.0/24", by decide, rfl⟩)⟩

/-- Only `192.168.0.0/24` is configured, and a request from `10.1.2.3` passes, because the machine
is in `10.0.0.0/8`. -/
theorem unconfigured_local_network_passes :
    ¬ ∀ (text : AddressText) (config : Config) (ifs : Interfaces) (before : List RemoteRequest)
      (r : RemoteRequest), config.disableIPFilter = false →
      (config.allowNetworks ≠ [] ∨ config.allowInterfaces ≠ []) →
      (∀ r' ∈ before ++ [r], r'.ifs = ifs) →
      (serve text (Responder.after (serve text) (newFilterHandlerFromConfig text config ifs) before)
        r).1 = .passed →
      ∃ ip n, text.remoteIP r = some ip ∧ n.contains ip = true ∧ Configured text config ifs n := by
  intro h
  obtain ⟨ip, n, hip, hcontains, hconfigured⟩ := h fewTexts homeNetworkOnly machineAtTen []
    ⟨"10.1.2.3:80", machineAtTen⟩ rfl (.inl (by decide))
    (fun r' hr' => by rw [List.mem_singleton.mp hr']) (by decide)
  obtain ⟨net, hnet, hn⟩ | ⟨ifname, hifname, -⟩ := hconfigured
  · obtain rfl := List.mem_singleton.mp hnet
    cases hip
    cases hn
    exact absurd hcontains (by decide)
  · cases hifname

end NetFilter

end Snapweb
