import Snapweb.Core.IP
import Snapweb.Core.Responder
import Mathlib.Tactic.SplitIfs

/-!
# The network filter

`netfilter.go`: a list of allowed networks, and the address that was accepted last.  The networks
come from texts in CIDR notation and from the addresses of the machine's interfaces, by way of
their text as well.

* `Interfaces` — the interfaces of the machine, which may be others at every call.
* `isAllowed_of_agrees` — a filter whose cached address is in an allowed network answers as it
  would without the cache.
* `isAllowed_refines_uncached` — so in every sequence of calls the cache changes no answer.
-/

namespace Snapweb

/-- The texts of networks, both ways: `net.ParseCIDR` and `IPNet.String`. -/
structure NetworkText where
  parseCIDR : String → Option Net.IPNet
  string : Net.IPNet → String

/-- An address of an interface (`net.Addr`). -/
inductive Addr
  | ipNet (n : Net.IPNet)
  | other
  deriving DecidableEq

/-- The network interfaces of the machine, as they can be asked for at some moment. -/
structure Interfaces where
  /-- The names that `net.Interfaces` gives; `none` when it fails. -/
  interfaces : Option (List String)
  /-- The addresses of an interface; `none` when it is not found, or they are not. -/
  addrs : String → Option (List Addr)

/-- The filter. -/
structure NetFilter where
  allowedNetworks : List Net.IPNet
  acceptCache : Option Net.IP

namespace NetFilter

/-- A new filter allows nothing. -/
def new : NetFilter := { allowedNetworks := [], acceptCache := none }

/-- Is an address allowed? -/
def isAllowed (f : NetFilter) : Option Net.IP → Bool × NetFilter
  | none => (false, f)
  | some ip =>
      if Net.equal ip (f.acceptCache.getD []) then (true, f)
      else if f.allowedNetworks.any (·.contains ip) then (true, { f with acceptCache := some ip })
      else (false, f)

variable (text : NetworkText)

/-- Allow a network, given as a text; the filter and the error, if any. -/
def allowNetwork (f : NetFilter) (network : String) : NetFilter × Option String :=
  match text.parseCIDR network with
  | some net => ({ f with allowedNetworks := f.allowedNetworks ++ [net] }, none)
  | none => (f, some ("Invalid network CIDR " ++ network))

/-- Only loopback or IPv4 networks are considered. -/
def considered (ipnet : Net.IPNet) : Bool := Net.isLoopback ipnet.ip || (Net.to4 ipnet.ip).isSome

/-- The loop over the addresses of an interface. -/
def allowAddrs (f : NetFilter) : List Addr → NetFilter
  | [] => f
  | .ipNet ipnet :: rest =>
      if considered ipnet then allowAddrs (f.allowNetwork text (text.string ipnet)).1 rest
      else allowAddrs f rest
  | .other :: rest => allowAddrs f rest

/-- Allow the networks of an interface. -/
def addLocalNetworkForInterface (ifs : Interfaces) (f : NetFilter) (ifname : String) : NetFilter :=
  match ifs.addrs ifname with
  | none => f
  | some addrs => f.allowAddrs text addrs

/-- Allow the networks of all interfaces. -/
def addLocalNetworks (ifs : Interfaces) (f : NetFilter) : NetFilter :=
  match ifs.interfaces with
  | none => f
  | some iflist => iflist.foldl (fun f ifname => f.addLocalNetworkForInterface text ifs ifname) f

end NetFilter

/-! ## The filter without its cache -/

/-- An address as the server gets them: four bytes, or sixteen. -/
abbrev QueriedIP := { ip : Net.IP // ip.length = 4 ∨ ip.length = 16 }

/-- A call of one of the filter's methods. -/
inductive FilterCall
  | allowNetwork (network : String)
  | addLocalNetworks (ifs : Interfaces)
  | isAllowed (ip : Option QueriedIP)

/-- What a call returns. -/
inductive FilterAnswer
  | nothing
  | error (err : Option String)
  | allowed (b : Bool)
  deriving DecidableEq

namespace NetFilter

/-- The filter as a responder. -/
def call (text : NetworkText) (f : NetFilter) : FilterCall → FilterAnswer × NetFilter
  | .allowNetwork network =>
      let (f, err) := f.allowNetwork text network
      (.error err, f)
  | .addLocalNetworks ifs => (.nothing, f.addLocalNetworks text ifs)
  | .isAllowed ip =>
      let (b, f) := f.isAllowed (ip.map (·.val))
      (.allowed b, f)

/-- Does some network that was added contain the address? -/
def uncachedIsAllowed (networks : List Net.IPNet) : Option Net.IP → Bool
  | none => false
  | some ip => networks.any (·.contains ip)

/-- The filter without a cache: it keeps the networks and looks an address up in them. -/
def uncachedCall (text : NetworkText) (networks : List Net.IPNet) :
    FilterCall → FilterAnswer × List Net.IPNet
  | .allowNetwork network =>
      let (f, err) := allowNetwork text { allowedNetworks := networks, acceptCache := none } network
      (.error err, f.allowedNetworks)
  | .addLocalNetworks ifs =>
      (.nothing, (addLocalNetworks text ifs ⟨networks, none⟩).allowedNetworks)
  | .isAllowed ip => (.allowed (uncachedIsAllowed networks (ip.map (·.val))), networks)

/-! ## What the networks depend on -/

section
variable (text : NetworkText)

/-- The networks that the addresses of an interface allow. -/
def networksOf (addrs : List Addr) : List Net.IPNet :=
  addrs.filterMap fun
    | .ipNet ipnet => if considered ipnet then text.parseCIDR (text.string ipnet) else none
    | .other => none

/-- The networks of an interface that can be allowed. -/
def interfaceNetworks (ifs : Interfaces) (ifname : String) : List Net.IPNet :=
  networksOf text ((ifs.addrs ifname).getD [])

/-- The networks of all interfaces that can be allowed. -/
def localNetworks (ifs : Interfaces) : List Net.IPNet :=
  (ifs.interfaces.getD []).flatMap (interfaceNetworks text ifs)

lemma allowNetwork_fst (f : NetFilter) (network : String) : (f.allowNetwork text network).1
    = { f with allowedNetworks := f.allowedNetworks ++ (text.parseCIDR network).toList } := by
  rw [allowNetwork]
  cases text.parseCIDR network <;> simp

lemma allowAddrs_eq (f : NetFilter) (addrs : List Addr) : f.allowAddrs text addrs
    = { f with allowedNetworks := f.allowedNetworks ++ networksOf text addrs } := by
  induction addrs generalizing f with
  | nil => simp [allowAddrs, networksOf]
  | cons a rest ih =>
      cases a with
      | other => simpa [allowAddrs, networksOf] using ih f
      | ipNet ipnet =>
          rw [allowAddrs]
          split_ifs with hconsidered
          · rw [ih, allowNetwork_fst]
            simp only [networksOf, List.filterMap_cons, hconsidered, if_true, List.append_assoc]
            cases text.parseCIDR (text.string ipnet) <;> rfl
          · rw [ih]
            simp only [networksOf, List.filterMap_cons, hconsidered]
            rfl

/-- What an interface adds. -/
lemma addLocalNetworkForInterface_eq (ifs : Interfaces) (f : NetFilter) (ifname : String) :
    f.addLocalNetworkForInterface text ifs ifname
      = { f with allowedNetworks := f.allowedNetworks ++ interfaceNetworks text ifs ifname } := by
  rw [addLocalNetworkForInterface, interfaceNetworks]
  cases ifs.addrs ifname with
  | none => simp [networksOf]
  | some addrs => exact allowAddrs_eq text f addrs

lemma foldl_addLocalNetworkForInterface (ifs : Interfaces) (f : NetFilter) (ifnames : List String) :
    ifnames.foldl (fun f ifname => f.addLocalNetworkForInterface text ifs ifname) f
      = { f with
          allowedNetworks := f.allowedNetworks ++ ifnames.flatMap (interfaceNetworks text ifs) } := by
  induction ifnames generalizing f with
  | nil => simp
  | cons ifname rest ih => rw [List.foldl_cons, ih, addLocalNetworkForInterface_eq]; simp

/-- What a refresh adds: the networks of the interfaces there are, whatever the filter. -/
lemma addLocalNetworks_eq (ifs : Interfaces) (f : NetFilter) : f.addLocalNetworks text ifs
    = { f with allowedNetworks := f.allowedNetworks ++ localNetworks text ifs } := by
  rw [addLocalNetworks, localNetworks]
  cases ifs.interfaces with
  | none => simp
  | some iflist => exact foldl_addLocalNetworkForInterface text ifs f iflist

end

/-! ## The cache changes no answer -/

/-- The cached address, if any, is in an allowed network. -/
def Agrees (f : NetFilter) (networks : List Net.IPNet) : Prop :=
  f.allowedNetworks = networks ∧
    ∀ ip, f.acceptCache = some ip → networks.any (·.contains ip) = true

lemma Agrees.append {f : NetFilter} {networks : List Net.IPNet} (h : f.Agrees networks)
    (more : List Net.IPNet) :
    Agrees { f with allowedNetworks := f.allowedNetworks ++ more } (networks ++ more) := by
  refine ⟨by rw [h.1], fun ip hip => ?_⟩
  rw [List.any_append, h.2 ip hip, Bool.true_or]

/-- A filter whose cached address is in an allowed network answers as it would without a cache,
and the address that it caches is in one again. -/
lemma isAllowed_of_agrees {f : NetFilter} {networks : List Net.IPNet} (h : f.Agrees networks)
    (ip : Option Net.IP) (hip : ∀ x, ip = some x → x.length ≠ 0) :
    (f.isAllowed ip).1 = uncachedIsAllowed networks ip ∧ (f.isAllowed ip).2.Agrees networks := by
  cases ip with
  | none => exact ⟨rfl, h⟩
  | some ip =>
      simp only [isAllowed, uncachedIsAllowed]
      split_ifs with hcache hnet
      · -- the address equals the cached one, which is in an allowed network
        cases hc : f.acceptCache with
        | none =>
            rw [hc, Option.getD_none, Net.equal_nil (hip ip rfl)] at hcache
            cases hcache
        | some x =>
            rw [hc, Option.getD_some] at hcache
            refine ⟨?_, h⟩
            simp only [Net.contains_eq_of_equal _ hcache]
            exact (h.2 x hc).symm
      · rw [h.1] at hnet
        refine ⟨hnet.symm, h.1, fun x hx => ?_⟩
        cases hx
        exact hnet
      · rw [h.1] at hnet
        exact ⟨by simpa using hnet, h⟩

/-- **The cache.**  In every sequence of calls, from a new filter on, every answer is that of the
filter that has no cache: no address is allowed but one that a network added so far contains, and
every such address is. -/
theorem isAllowed_refines_uncached (text : NetworkText) (calls : List FilterCall) :
    Responder.answers (call text) new calls = Responder.answers (uncachedCall text) [] calls := by
  refine Responder.answers_eq_of_bisim (R := Agrees) ?_ ⟨rfl, fun ip hip => by cases hip⟩ calls
  intro f networks c h
  cases c with
  | allowNetwork network =>
      have hsame : (f.allowNetwork text network).2
          = (allowNetwork text ⟨networks, none⟩ network).2 := by
        rw [allowNetwork, allowNetwork]
        cases text.parseCIDR network <;> rfl
      refine ⟨congrArg FilterAnswer.error hsame, ?_⟩
      simp only [call, uncachedCall, allowNetwork_fst]
      exact h.append _
  | addLocalNetworks ifs =>
      simp only [call, uncachedCall, addLocalNetworks_eq]
      exact ⟨trivial, h.append _⟩
  | isAllowed ip =>
      obtain ⟨hans, hagrees⟩ := isAllowed_of_agrees h (ip.map (·.val)) fun x hx => by
        obtain ⟨q, -, rfl⟩ := Option.map_eq_some_iff.mp hx
        have := q.property
        omega
      exact ⟨congrArg FilterAnswer.allowed hans, hagrees⟩

end NetFilter

end Snapweb
