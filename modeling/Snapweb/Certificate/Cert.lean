import Mathlib.Data.Nat.Notation
import Snapweb.Core.Machine

/-!
# The certificate

Each start of the server runs `DumpCertificate`, which makes a key pair and writes it to `cert.pem`
and `key.pem`, unless both files exist.  The files are written in place, one after the other, and the
server may be killed between any two steps.

* `returns_with_pair` — when `DumpCertificate` returns, the files hold a pair, in every run in which
  no start is killed between creating `key.pem` and writing it; and after such a kill the next
  start returns without a pair.
* `empty_key_kept` — a run with such a kill.
-/

namespace Snapweb

/-- What a file holds that is written in one step: nothing yet, or the PEM block made of a key pair,
the certificate or the key. -/
inductive PemFile (κ : Type*)
  | empty
  | block (pair : κ)
  deriving DecidableEq, Repr

/-- How far a start is in `DumpCertificate`: which step it does next. -/
inductive CertPhase (κ : Type*)
  | down
  | createCert (pair : κ)
  | writeCert (pair : κ)
  | createKey (pair : κ)
  | writeKey (pair : κ)
  | returned
  deriving DecidableEq, Repr

/-- `SNAP_DATA`, and the server. -/
structure CertWorld (κ : Type*) where
  /-- `cert.pem`. -/
  cert : Option (PemFile κ)
  /-- `key.pem`. -/
  key : Option (PemFile κ)
  phase : CertPhase κ

/-- What happens: the server starts, where `pair` is the key pair that it makes if it makes one; it
does its next step; it is killed. -/
inductive CertEvent (κ : Type*)
  | start (pair : κ)
  | step
  | kill

namespace CertWorld

variable {κ : Type*}

/-- `SNAP_DATA` is empty. -/
def init : CertWorld κ := ⟨none, none, .down⟩

/-- One step of a start, where it is under way. -/
def stepFile (w : CertWorld κ) : Option (CertWorld κ) :=
  match w.phase with
  | .createCert pair => some { w with cert := some .empty, phase := .writeCert pair }
  | .writeCert pair => some { w with cert := some (.block pair), phase := .createKey pair }
  | .createKey pair => some { w with key := some .empty, phase := .writeKey pair }
  | .writeKey pair => some { w with key := some (.block pair), phase := .returned }
  | .down => none
  | .returned => none

/-- `DumpCertificate` up to its first step: it returns at once if both files exist. -/
def dumpCertificate (w : CertWorld κ) (pair : κ) : CertWorld κ :=
  { w with phase := if w.cert.isSome ∧ w.key.isSome then .returned else .createCert pair }

/-- One event. -/
def next (w : CertWorld κ) : CertEvent κ → Option (CertWorld κ)
  | .start pair =>
      match w.phase with
      | .down => some (w.dumpCertificate pair)
      | _ => none
  | .step => w.stepFile
  | .kill =>
      match w.phase with
      | .down => none
      | _ => some { w with phase := .down }

/-- Starts of the server, as a machine. -/
def machine : Machine (CertWorld κ) (CertEvent κ) := ⟨next⟩

/-- Both files are complete, and belong to the same key pair. -/
def HasPair (w : CertWorld κ) : Prop :=
  ∃ pair, w.cert = some (.block pair) ∧ w.key = some (.block pair)

/-- Where `DumpCertificate` has returned, the files hold a pair. -/
def ReturnsWithPair (_ : CertWorld κ) (_ : CertEvent κ) (w' : CertWorld κ) : Prop :=
  w'.phase = .returned → w'.HasPair

/-- The start is not killed between creating `key.pem` and writing it. -/
def KeyWritten (w : CertWorld κ) (e : CertEvent κ) (_ : CertWorld κ) : Prop :=
  match e with
  | .kill => ∀ pair, w.phase ≠ .writeKey pair
  | _ => True

/-! ## The invariant -/

/-- `key.pem` exists only with the certificate of the pair: until it is created it is missing, and
when it is created the certificate has been written. -/
def Inv (w : CertWorld κ) : Prop :=
  match w.phase with
  | .down => w.key = none ∨ w.HasPair
  | .createCert _ => w.key = none
  | .writeCert _ => w.key = none
  | .createKey pair => w.key = none ∧ w.cert = some (.block pair)
  | .writeKey pair => w.key = some .empty ∧ w.cert = some (.block pair)
  | .returned => w.HasPair

lemma inv_init : (init : CertWorld κ).Inv := .inl rfl

/-- A start that finds no key makes a pair, and one that finds a pair keeps it. -/
lemma Inv.dumpCertificate {w : CertWorld κ} (h : w.key = none ∨ w.HasPair) (pair : κ) :
    (w.dumpCertificate pair).Inv := by
  rcases h with hkey | hpair
  · have hmissing : ¬ (w.cert.isSome = true ∧ w.key.isSome = true) := by
      rw [hkey]
      exact fun h => Bool.false_ne_true h.2
    rw [CertWorld.dumpCertificate, if_neg hmissing]
    exact hkey
  · have hboth : w.cert.isSome = true ∧ w.key.isSome = true := by
      obtain ⟨old, hcert, hkey⟩ := hpair
      rw [hcert, hkey]
      exact ⟨rfl, rfl⟩
    rw [CertWorld.dumpCertificate, if_pos hboth]
    exact hpair

/-- A step of a start keeps the invariant. -/
lemma Inv.stepFile {w w' : CertWorld κ} (h : w.Inv) (hs : w.stepFile = some w') : w'.Inv := by
  obtain ⟨cert, key, phase⟩ := w
  cases phase with
  | down => cases hs
  | createCert pair =>
      cases hs
      exact h
  | writeCert pair =>
      cases hs
      exact ⟨h, rfl⟩
  | createKey pair =>
      cases hs
      exact ⟨rfl, h.2⟩
  | writeKey pair =>
      cases hs
      exact ⟨pair, h.2, rfl⟩
  | returned => cases hs

/-- A kill keeps the invariant, unless it comes before `key.pem` is written. -/
lemma Inv.kill {w : CertWorld κ} (h : w.Inv) (hkey : ∀ pair, w.phase ≠ .writeKey pair) :
    ({ w with phase := .down } : CertWorld κ).Inv := by
  obtain ⟨cert, key, phase⟩ := w
  cases phase with
  | down => exact h
  | createCert pair => exact .inl h
  | writeCert pair => exact .inl h
  | createKey pair => exact .inl h.1
  | writeKey pair => exact absurd rfl (hkey pair)
  | returned => exact .inr h

/-- One event keeps the invariant, unless it is a kill before `key.pem` is written. -/
lemma Inv.next {w w' : CertWorld κ} {e : CertEvent κ} (h : w.Inv)
    (hs : machine.next w e = some w') (hc : w.KeyWritten e w') : w'.Inv := by
  cases e with
  | start pair =>
      simp only [machine, CertWorld.next] at hs
      split at hs
      · next hphase =>
          cases hs
          rw [Inv, hphase] at h
          exact Inv.dumpCertificate h pair
      · cases hs
  | step => exact h.stepFile hs
  | kill =>
      simp only [machine, CertWorld.next] at hs
      split at hs
      · cases hs
      · cases hs
        exact h.kill hc

lemma Inv.returnsWithPair {w w' : CertWorld κ} {e : CertEvent κ} (h : w'.Inv) :
    ReturnsWithPair w e w' := by
  intro hphase
  rw [Inv, hphase] at h
  exact h

/-- After a kill before `key.pem` is written, the next start finds both files. -/
lemma start_after_kill {w : CertWorld κ} {pair : κ} (h : w.Inv) (hphase : w.phase = .writeKey pair)
    (pair' : κ) :
    ∃ w', machine.exec w [.kill, .start pair'] = some w' ∧ w'.phase = .returned ∧ ¬ w'.HasPair := by
  rw [Inv, hphase] at h
  obtain ⟨cert, key, phase⟩ := w
  cases hphase
  obtain ⟨hkey, hcert⟩ := h
  cases hkey
  cases hcert
  refine ⟨⟨some (.block pair), some .empty, .returned⟩, rfl, rfl, ?_⟩
  rintro ⟨_, -, hblock⟩
  cases hblock

/-- **When `DumpCertificate` returns.**  In every run from an empty `SNAP_DATA` in which no start is
killed between creating `key.pem` and writing it, the files hold a pair whenever `DumpCertificate`
has returned.  And if such a run comes to where `key.pem` has been created and not been written, and
the start is killed there, the next start returns without a pair. -/
theorem returns_with_pair (es : List (CertEvent κ)) (hes : machine.Along KeyWritten init es) :
    machine.Along ReturnsWithPair init es ∧
      ∀ w pair, machine.exec init es = some w → w.phase = .writeKey pair →
        ∀ pair', ∃ w', machine.exec init (es ++ [.kill, .start pair']) = some w' ∧
          w'.phase = .returned ∧ ¬ w'.HasPair := by
  have hstep : ∀ (w : CertWorld κ) e w', w.Inv → machine.next w e = some w' →
      w.KeyWritten e w' → w'.Inv := fun w e w' h hs hc => h.next hs hc
  refine ⟨?_, fun w pair hexec hphase pair' => ?_⟩
  · refine Machine.Along.of_invariant hstep ?_ inv_init hes
    exact fun w e w' h hs hc => (h.next hs hc).returnsWithPair
  · have h := Machine.exec_invariant hstep inv_init hes hexec
    rw [Machine.exec_append, hexec]
    exact start_after_kill h hphase pair'

/-- A start that is killed once it has written `cert.pem`, and one that comes up to its last step. -/
def restarted : List (CertEvent ℕ) :=
  [.start 0, .step, .step, .kill, .start 1, .step, .step, .step]

/-- `returns_with_pair`, of these starts: the second one returns with its own pair. -/
theorem restarted_returns_with_pair :
    ∃ w, machine.exec init (restarted ++ [.step]) = some w ∧ w.phase = .returned ∧ w.HasPair := by
  have hkept : machine.Along KeyWritten init (restarted ++ [.step]) := by
    have hkill : KeyWritten ⟨some (.block 0), none, .createKey 0⟩ .kill
        ⟨some (.block 0), none, .down⟩ := nofun
    exact .cons rfl trivial <| .cons rfl trivial <| .cons rfl trivial <| .cons rfl hkill <|
      .cons rfl trivial <| .cons rfl trivial <| .cons rfl trivial <| .cons rfl trivial <|
      .cons rfl trivial trivial
  exact ⟨⟨some (.block 1), some (.block 1), .returned⟩, rfl, rfl,
    (returns_with_pair _ hkept).1.last rfl rfl rfl⟩

/-- A start that comes up to creating `key.pem`. -/
def upToKey : List (CertEvent ℕ) := [.start 0, .step, .step, .step]

/-- A start that is killed before it writes `key.pem` leaves it empty, and the next one keeps it. -/
theorem empty_key_kept : ¬ ∀ es : List (CertEvent ℕ), machine.Along ReturnsWithPair init es := by
  intro h
  have hlast := (h (upToKey ++ [.kill] ++ [.start 1])).last (by decide) (by decide)
  obtain ⟨_, -, hblock⟩ := hlast (by decide)
  cases hblock

end CertWorld

end Snapweb
