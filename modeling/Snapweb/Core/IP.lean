import Mathlib.Tactic.Lemma
import Mathlib.Data.List.Basic

/-!
# IP addresses and networks

The part of Go's `net` that compares addresses and decides whether a network has one.  An address
is a list of bytes: four for IPv4, sixteen for IPv6, where an IPv4 address may also be written in
sixteen bytes; the empty list is Go's `nil`.

* `canon` — the shorter of an address's two forms, which is all that `equal` and `contains` see.
* `contains_eq_of_equal` — a network has both of two equal addresses or none of them.
-/

namespace Net

/-- `net.IP`. -/
abbrev IP := List UInt8

/-- `v4InV6Prefix`. -/
def v4InV6Prefix : List UInt8 := List.replicate 10 0 ++ [0xff, 0xff]

/-- `IPv6loopback`. -/
def ipv6loopback : IP := List.replicate 15 0 ++ [1]

/-- `IP.To4`: the four bytes of an IPv4 address, `none` for any other. -/
def to4 (ip : IP) : Option IP :=
  if ip.length = 4 then some ip
  else if ip.length = 16 ∧ ip.take 12 = v4InV6Prefix then some (ip.drop 12)
  else none

/-- `IP.Equal`: an IPv4 address and the same in sixteen bytes are equal. -/
def equal (ip x : IP) : Bool :=
  if ip.length = x.length then ip == x
  else if ip.length = 4 ∧ x.length = 16 then x.take 12 == v4InV6Prefix && ip == x.drop 12
  else if ip.length = 16 ∧ x.length = 4 then ip.take 12 == v4InV6Prefix && ip.drop 12 == x
  else false

/-- `IP.IsLoopback`. -/
def isLoopback (ip : IP) : Bool :=
  match to4 ip with
  | some ip4 => ip4.head? == some 127
  | none => equal ip ipv6loopback

/-- `net.IPNet`: an address with a mask. -/
structure IPNet where
  ip : IP
  mask : List UInt8
  deriving DecidableEq, Repr

/-- `networkNumberAndMask`: the address and the mask in the same length, or nothing. -/
def networkNumberAndMask (n : IPNet) : IP × List UInt8 :=
  let ip := (to4 n.ip).getD n.ip
  if (to4 n.ip).isNone ∧ n.ip.length ≠ 16 then ([], [])
  else if n.mask.length = 4 then if ip.length ≠ 4 then ([], []) else (ip, n.mask)
  else if n.mask.length = 16 then if ip.length = 4 then (ip, n.mask.drop 12) else (ip, n.mask)
  else ([], [])

/-- The loop of `Contains`: the addresses agree where the mask has bits. -/
def agree : List UInt8 → List UInt8 → List UInt8 → Bool
  | a :: as, m :: ms, b :: bs => a &&& m == b &&& m && agree as ms bs
  | _, _, _ => true

/-- The shorter form of an address. -/
def canon (ip : IP) : IP := (to4 ip).getD ip

/-- `IPNet.Contains`. -/
def IPNet.contains (n : IPNet) (ip : IP) : Bool :=
  let (nn, m) := networkNumberAndMask n
  let ip := canon ip
  ip.length == nn.length && agree nn m ip

/-- The short form of an IPv4 address that is written in sixteen bytes. -/
lemma canon_of_long {ip : IP} (h16 : ip.length = 16) (hpre : ip.take 12 = v4InV6Prefix) :
    canon ip = ip.drop 12 := by
  have h4 : ip.length ≠ 4 := by omega
  rw [canon, to4, if_neg h4, if_pos ⟨h16, hpre⟩, Option.getD_some]

lemma canon_of_length_four {ip : IP} (h4 : ip.length = 4) : canon ip = ip := by
  rw [canon, to4, if_pos h4, Option.getD_some]

/-- Equal addresses have the same short form. -/
lemma canon_eq_of_equal {ip x : IP} (h : equal ip x = true) : canon ip = canon x := by
  rw [equal] at h
  split_ifs at h with hlen hshort hlong
  · rw [beq_iff_eq.mp h]
  · simp only [Bool.and_eq_true, beq_iff_eq] at h
    rw [canon_of_length_four hshort.1, canon_of_long hshort.2 h.1]
    exact h.2
  · simp only [Bool.and_eq_true, beq_iff_eq] at h
    rw [canon_of_long hlong.1 h.1, canon_of_length_four hlong.2]
    exact h.2

/-- **Equal addresses.**  A network has both of two equal addresses or none of them. -/
theorem contains_eq_of_equal (n : IPNet) {ip x : IP} (h : equal ip x = true) :
    n.contains ip = n.contains x := by
  rw [IPNet.contains, IPNet.contains, canon_eq_of_equal h]

/-- No address but the empty one equals it. -/
lemma equal_nil {ip : IP} (h : ip.length ≠ 0) : equal ip [] = false := by
  rw [equal, if_neg (by simpa using h), if_neg (by simp), if_neg (by simp)]

end Net
