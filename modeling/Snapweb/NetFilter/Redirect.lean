import Snapweb.Core.Replace
import Snapweb.NetFilter.FilterHandler

/-!
# Redirecting to HTTPS

`redirHandler` sends a plain request to the same host by HTTPS.  It gets the new text of the host by
replacing the HTTP port wherever it stands in the old one, not by taking the port off: a longer port
that begins with the same digits, and a group of an IPv6 address, are changed too.

* `replaced_iff` — when the text of a host comes out as it should.
* `redirHandler_iff` — when a request is sent where it should be.
* `redirHandler_address_group` — a request to an IPv6 address with such a group.
-/

namespace Snapweb

/-- The address of the plain server, in the default build. -/
def httpAddr : String := ":4200"

/-- The address of the HTTPS server, in the default build. -/
def httpsAddr : String := ":4201"

/-- `http.StatusSeeOther`. -/
def statusSeeOther : ℕ := 303

/-- What the client gets. -/
inductive RedirAnswer
  | forbidden
  | redirect (location : String) (code : ℕ)
  deriving DecidableEq, Repr

/-- The handler inside of `redirHandler`. -/
def redir (host : String) : RedirAnswer :=
  .redirect
    ("https://" ++ String.ofList (Strings.replace httpAddr.toList httpsAddr.toList host.toList))
    statusSeeOther

/-- `redirHandler`, with the filter that the configuration has put in front, and the filter after the
request. -/
def redirHandler (text : AddressText) (f : Option NetFilter) (r : RemoteRequest) (host : String) :
    RedirAnswer × Option NetFilter :=
  match NetFilter.serve text f r with
  | (.passed, f) => (redir host, f)
  | (.forbidden, f) => (.forbidden, f)

/-! ## Hosts and ports -/

/-- The character stands in a DNS name or an IPv4 address. -/
def isNameChar (c : Char) : Bool := c.isAlphanum || c == '-' || c == '_' || c == '.'

/-- The character stands in an IPv6 literal: digits, letters to `f`, and what separates them. -/
def isLiteralChar (c : Char) : Bool :=
  c.isDigit || ('a' ≤ c && c ≤ 'f') || ('A' ≤ c && c ≤ 'F') || c == ':' || c == '.'

/-- A host: a DNS name or an IPv4 address, or an IPv6 literal in brackets. -/
inductive HostName
  | name (s : { s : String // s ≠ "" ∧ s.toList.all isNameChar = true })
  | literal (s : { s : String // s ≠ "" ∧ s.toList.all isLiteralChar = true })

/-- The text of a host. -/
def HostName.text : HostName → String
  | name s => s.val
  | literal s => "[" ++ s.val ++ "]"

/-- A decimal port. -/
abbrev Port := { s : String // s ≠ "" ∧ s.toList.all Char.isDigit = true }

/-- The `Host` of a request: `h`, or `h:p`. -/
def hostHeader (h : HostName) : Option Port → String
  | none => h.text
  | some p => h.text ++ ":" ++ p.val

/-- The port of the HTTPS server for the one of the plain server, and another one as it is. -/
def Port.secured (p : Port) : String := if p.val = "4200" then "4201" else p.val

/-- The same host, at the port of the HTTPS server or at its own. -/
def securedHost (h : HostName) : Option Port → String
  | none => h.text
  | some p => h.text ++ ":" ++ p.secured

/-- The text of the HTTP port stands in the host. -/
def HostName.HasGroup (h : HostName) : Prop := httpAddr.toList <:+: h.text.toList

/-- The port is longer than the HTTP one, and begins with it. -/
def Port.Longer (p : Port) : Prop := "4200".toList <+: p.val.toList ∧ p.val ≠ "4200"

lemma not_infix_of_colon_notMem {s : List Char} (h : ':' ∉ s) : ¬ httpAddr.toList <:+: s :=
  fun hinf => h (hinf.subset (by decide))

/-- In a DNS name or an IPv4 address there is no such group. -/
lemma not_hasGroup_name (s : { s : String // s ≠ "" ∧ s.toList.all isNameChar = true }) :
    ¬ (HostName.name s).HasGroup := by
  refine not_infix_of_colon_notMem fun hcolon => ?_
  exact absurd (List.all_eq_true.mp s.property.2 ':' hcolon) (by decide)

lemma Port.colon_notMem (p : Port) : ':' ∉ p.val.toList := fun hcolon =>
  absurd (List.all_eq_true.mp p.property.2 ':' hcolon) (by decide)

/-! ## What the text of a host comes to -/

/-- The port comes out as it should, unless it is longer than the HTTP one. -/
lemma replaced_port_iff (p : Port) :
    Strings.replace httpAddr.toList httpsAddr.toList (':' :: p.val.toList)
      = ':' :: p.secured.toList ↔ ¬ p.Longer := by
  have hcolon := p.colon_notMem
  rw [Port.Longer, Port.secured]
  by_cases hbegins : "4200".toList <+: p.val.toList
  · obtain ⟨rest, hrest⟩ := hbegins
    have hsame : Strings.replace httpAddr.toList httpsAddr.toList rest = rest :=
      Strings.replace_of_not_infix (not_infix_of_colon_notMem fun hmem =>
        hcolon (hrest ▸ List.mem_append_right _ hmem))
    have hreplaced : Strings.replace httpAddr.toList httpsAddr.toList (':' :: p.val.toList)
        = httpsAddr.toList ++ rest := by
      rw [← hrest]
      exact (Strings.replace_occurrence (by decide) rest).trans (by rw [hsame])
    rw [hreplaced]
    by_cases hport : p.val = "4200"
    · have hnil : rest = [] := by
        rw [hport] at hrest
        exact List.append_right_eq_self.mp hrest
      rw [hnil, if_pos hport]
      exact iff_of_true (by decide) fun hlonger => hlonger.2 hport
    · rw [if_neg hport, ← hrest]
      refine iff_of_false (fun h => ?_) fun hnot => hnot ⟨List.prefix_append _ rest, hport⟩
      have happend : httpsAddr.toList ++ rest = httpAddr.toList ++ rest := h
      exact absurd (List.append_inj_left happend (by decide)) (by decide)
  · have hport : p.val ≠ "4200" := fun hport => hbegins (hport ▸ List.prefix_refl _)
    have hno : ¬ httpAddr.toList <+: ':' :: p.val.toList := fun hpre =>
      hbegins (List.cons_prefix_cons.mp hpre).2
    rw [if_neg hport, Strings.replace_cons hno,
      Strings.replace_of_not_infix (not_infix_of_colon_notMem hcolon)]
    exact iff_of_true rfl fun hlonger => hbegins hlonger.1

/-- **What a host comes to.**  The text is replaced as it should be exactly if the host has no group
that looks like the HTTP port, and the port is not longer than that one. -/
lemma replaced_iff (h : HostName) (p : Option Port) :
    Strings.replace httpAddr.toList httpsAddr.toList (hostHeader h p).toList
        = (securedHost h p).toList ↔
      ¬ h.HasGroup ∧ ∀ port, p = some port → ¬ port.Longer := by
  have hhost : Strings.replace httpAddr.toList httpsAddr.toList h.text.toList = h.text.toList ↔
      ¬ h.HasGroup :=
    Strings.replace_eq_self_iff (by decide) (by decide) (by decide) _
  cases p with
  | none =>
      rw [hostHeader, securedHost, hhost]
      exact (and_iff_left fun port hport => by cases hport).symm
  | some port =>
      have hbefore : (hostHeader h (some port)).toList = h.text.toList ++ ':' :: port.val.toList := by
        rw [hostHeader, String.toList_append, String.toList_append, List.append_assoc]
        rfl
      have hafter : (securedHost h (some port)).toList
          = h.text.toList ++ ':' :: port.secured.toList := by
        rw [securedHost, String.toList_append, String.toList_append, List.append_assoc]
        rfl
      have hlength : (Strings.replace httpAddr.toList httpsAddr.toList h.text.toList).length
          = h.text.toList.length := Strings.length_replace (by decide) (by decide) _
      rw [hbefore, hafter, Strings.replace_append_cons (by decide) (by decide)]
      constructor
      · intro heq
        obtain ⟨hname, hport⟩ := List.append_inj heq hlength
        refine ⟨hhost.mp hname, ?_⟩
        rintro _ ⟨rfl⟩
        exact (replaced_port_iff port).mp hport
      · rintro ⟨hname, hport⟩
        rw [hhost.mpr hname, (replaced_port_iff port).mpr (hport port rfl)]

/-! ## The handler -/

/-- **The redirect.**  A request that the filter lets through is sent to the same host by HTTPS, to
the HTTPS port if it came to the HTTP one and to its own port otherwise, exactly if the host has no
group that looks like the HTTP port, and the port is not longer than that one. -/
theorem redirHandler_iff {text : AddressText} {f : Option NetFilter} {r : RemoteRequest}
    (hpassed : (NetFilter.serve text f r).1 = .passed) (h : HostName) (p : Option Port) :
    (redirHandler text f r (hostHeader h p)).1 = .redirect ("https://" ++ securedHost h p) statusSeeOther ↔
      ¬ h.HasGroup ∧ ∀ port, p = some port → ¬ port.Longer := by
  have hredir : (redirHandler text f r (hostHeader h p)).1 = redir (hostHeader h p) := by
    rw [redirHandler]
    rcases hserve : NetFilter.serve text f r with ⟨_ | _, f'⟩
    · rfl
    · rw [hserve] at hpassed
      cases hpassed
  rw [hredir, redir, RedirAnswer.redirect.injEq, and_iff_left rfl, ← replaced_iff,
    String.append_right_inj, ← String.toList_inj, String.toList_ofList]

/-- A request without a filter in front, to a name at the HTTP port. -/
theorem redirHandler_webdm :
    (redirHandler NetFilter.fewTexts none ⟨"10.1.2.3:80", NetFilter.machineAtTen⟩
      (hostHeader (.name ⟨"webdm.local", by decide⟩) (some ⟨"4200", by decide⟩))).1
      = .redirect "https://webdm.local:4201" statusSeeOther :=
  (redirHandler_iff (f := none) rfl (.name ⟨"webdm.local", by decide⟩)
    (some ⟨"4200", by decide⟩)).mpr
    ⟨not_hasGroup_name _, by rintro _ ⟨rfl⟩ hlonger; exact hlonger.2 rfl⟩

/-- The address `2001:db8:4200::1` becomes another one. -/
theorem redirHandler_address_group :
    ¬ ∀ (text : AddressText) (f : Option NetFilter) (r : RemoteRequest) (h : HostName)
      (p : Option Port), (NetFilter.serve text f r).1 = .passed →
      (redirHandler text f r (hostHeader h p)).1
        = .redirect ("https://" ++ securedHost h p) statusSeeOther := by
  intro h
  have hanswer := h NetFilter.fewTexts none ⟨"10.1.2.3:80", NetFilter.machineAtTen⟩
    (.literal ⟨"2001:db8:4200::1", by decide⟩) (some ⟨"4200", by decide⟩) rfl
  exact absurd hanswer (by decide)

end Snapweb
