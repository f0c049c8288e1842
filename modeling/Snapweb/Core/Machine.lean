import Mathlib.Tactic.Lemma
import Mathlib.Tactic.SplitIfs
import Mathlib.Data.Nat.Notation
import Mathlib.Data.Option.Basic

/-!
# Guarded machines and what holds along their runs

A guarded machine takes labelled steps: `next s e` is the state after the event `e`, and `none`
where `e` cannot happen in `s`.  Everything a scheduler may decide (which thread moves, which
timer fires, what a remote service answers) is part of the event, so a machine is deterministic
once its events are fixed and a run is just a list of events.

* `exec` — the state a list of events leads to, if each of them can happen.
* `Along P` — every step of a run satisfies `P`, read at the state before the step, the event
  and the state after it.
* `exec_invariant` — the induction behind every safety result: an invariant that each admissible
  step keeps holds at the end of a run whose steps are all admissible.
* `Reaches.invariant` — the same where every step is admissible.
* `exec_simulates` — a relation to a history of the events, which each step keeps.
* `Along.of_invariant` — the same induction, with a conclusion about every *step* of the run.
* `along_congr` — a property of every step, and the exact condition for it.
* `countP_add_le` — the induction behind a bound: events that each take something off a measure are
  no more than the measure.
-/

/-- A machine with guarded, labelled steps. -/
structure Machine (σ ε : Type*) where
  /-- The state after an event; `none` where the event cannot happen. -/
  next : σ → ε → Option σ

namespace Machine

variable {σ ε : Type*} (M : Machine σ ε)

/-- The state after a list of events, `none` if one of them cannot happen. -/
def exec : σ → List ε → Option σ
  | s, [] => some s
  | s, e :: es => (M.next s e).bind fun s' => exec s' es

/-- Every step that the events `es` take from `s` satisfies `P`. -/
def Along (P : σ → ε → σ → Prop) : σ → List ε → Prop
  | _, [] => True
  | s, e :: es => ∀ s', M.next s e = some s' → P s e s' ∧ Along P s' es

/-- `s'` is reached from `s` by some list of events. -/
def Reaches (s s' : σ) : Prop := ∃ es, M.exec s es = some s'

variable {M}

lemma exec_cons_eq_some {s t : σ} {e : ε} {es : List ε} :
    M.exec s (e :: es) = some t ↔ ∃ s', M.next s e = some s' ∧ M.exec s' es = some t := by
  simp only [exec, Option.bind_eq_some_iff]

lemma exec_append (s : σ) (es fs : List ε) :
    M.exec s (es ++ fs) = (M.exec s es).bind fun s' => M.exec s' fs := by
  induction es generalizing s with
  | nil => rfl
  | cons e es ih =>
      rw [List.cons_append, exec, exec, Option.bind_assoc]
      exact Option.bind_congr fun s' _ => ih s'

lemma Along.cons {P : σ → ε → σ → Prop} {s s' : σ} {e : ε} {es : List ε} (hs : M.next s e = some s')
    (h : P s e s') (hes : M.Along P s' es) : M.Along P s (e :: es) := by
  intro t ht
  cases hs.symm.trans ht
  exact ⟨h, hes⟩

lemma along_cons {P : σ → ε → σ → Prop} {s s' : σ} {e : ε} {es : List ε}
    (h : M.Along P s (e :: es)) (hs : M.next s e = some s') : P s e s' ∧ M.Along P s' es :=
  h s' hs

/-- The steps of `es ++ fs` are those of `es` and those of `fs` from where `es` ends. -/
lemma along_append {P : σ → ε → σ → Prop} {s : σ} {es fs : List ε} (h : M.Along P s (es ++ fs)) :
    M.Along P s es ∧ ∀ s', M.exec s es = some s' → M.Along P s' fs := by
  induction es generalizing s with
  | nil =>
      refine ⟨trivial, fun s' hs' => ?_⟩
      cases hs'
      exact h
  | cons e es ih =>
      refine ⟨fun s' hs' => ⟨(h s' hs').1, (ih (h s' hs').2).1⟩, fun t ht => ?_⟩
      obtain ⟨s', hs', ht⟩ := exec_cons_eq_some.mp ht
      exact (ih (h s' hs').2).2 t ht

/-- What all events of a list satisfy holds along the run. -/
lemma along_of_forall {Q : ε → Prop} (s : σ) {es : List ε} (h : ∀ e ∈ es, Q e) :
    M.Along (fun _ e _ => Q e) s es := by
  induction es generalizing s with
  | nil => trivial
  | cons e es ih =>
      intro s' _
      exact ⟨h e List.mem_cons_self, ih s' fun e' he' => h e' (List.mem_cons_of_mem e he')⟩

/-- The last step of a run, where everything is computed: a run is refuted by evaluating it. -/
lemma Along.last {P : σ → ε → σ → Prop} {s : σ} {es : List ε} {e : ε}
    (h : M.Along P s (es ++ [e])) (hes : (M.exec s es).isSome = true)
    (he : (M.next ((M.exec s es).get hes) e).isSome = true) :
    P ((M.exec s es).get hes) e ((M.next ((M.exec s es).get hes) e).get he) :=
  ((along_append h).2 _ (Option.some_get hes).symm _ (Option.some_get he).symm).1

/-- **Invariants.**  What admissible steps keep holds at the end of every run of them. -/
theorem exec_invariant {I : σ → Prop} {C : σ → ε → σ → Prop}
    (hstep : ∀ s e s', I s → M.next s e = some s' → C s e s' → I s')
    {s t : σ} {es : List ε} (hI : I s) (hC : M.Along C s es) (ht : M.exec s es = some t) : I t := by
  induction es generalizing s with
  | nil =>
      cases ht
      exact hI
  | cons e es ih =>
      obtain ⟨s', hs', ht⟩ := exec_cons_eq_some.mp ht
      obtain ⟨hc, hC⟩ := along_cons hC hs'
      exact ih (hstep s e s' hI hs' hc) hC ht

/-- What every step keeps holds in every state reached. -/
theorem Reaches.invariant {I : σ → Prop} (hstep : ∀ s e s', I s → M.next s e = some s' → I s')
    {s t : σ} (ht : M.Reaches s t) (hI : I s) : I t := by
  obtain ⟨es, hes⟩ := ht
  have hC : M.Along (fun _ _ _ => True) s es := by
    clear hes hI
    induction es generalizing s with
    | nil => trivial
    | cons e es ih => exact fun s' _ => ⟨trivial, ih⟩
  exact exec_invariant (fun s e s' hs hnext _ => hstep s e s' hs hnext) hI hC hes

/-- **Histories.**  If a step with an event of `Q` keeps a relation to what has been noted of the events
so far, then the state that a run of such events ends in has it to what has been noted of them all. -/
theorem exec_simulates {τ : Type*} {R : σ → τ → Prop} {note : τ → ε → τ} {Q : ε → Prop}
    (hstep : ∀ s t e s', R s t → Q e → M.next s e = some s' → R s' (note t e))
    {s s' : σ} {t : τ} {es : List ε} (hR : R s t) (hQ : ∀ e ∈ es, Q e)
    (hs : M.exec s es = some s') : R s' (es.foldl note t) := by
  induction es generalizing s t with
  | nil =>
      cases hs
      exact hR
  | cons e es ih =>
      obtain ⟨s₁, hs₁, hs⟩ := exec_cons_eq_some.mp hs
      have he := hQ e List.mem_cons_self
      exact ih (hstep s t e s₁ hR he hs₁) (fun e' he' => hQ e' (List.mem_cons_of_mem e he')) hs

/-- **Steps of a run.**  If admissible steps keep `I`, and an admissible step from a state with
`I` satisfies `P`, then every step of a run of admissible steps satisfies `P`. -/
theorem Along.of_invariant {I : σ → Prop} {C P : σ → ε → σ → Prop}
    (hstep : ∀ s e s', I s → M.next s e = some s' → C s e s' → I s')
    (hP : ∀ s e s', I s → M.next s e = some s' → C s e s' → P s e s')
    {s : σ} {es : List ε} (hI : I s) (hC : M.Along C s es) : M.Along P s es := by
  induction es generalizing s with
  | nil => trivial
  | cons e es ih =>
      intro s' hs'
      obtain ⟨hc, hC⟩ := along_cons hC hs'
      exact ⟨hP s e s' hI hs' hc, ih (hstep s e s' hI hs' hc) hC⟩

/-- **Bounds.**  If admissible steps keep `I` and do not raise a measure, and those with certain events
lower it, then a run of admissible steps has no more of these events than the measure has lost. -/
theorem countP_add_le {I : σ → Prop} {C : σ → ε → σ → Prop} {μ : σ → ℕ} {p : ε → Bool}
    (hstep : ∀ s e s', I s → M.next s e = some s' → C s e s' → I s')
    (hμ : ∀ s e s', I s → M.next s e = some s' → C s e s' → μ s' + (if p e then 1 else 0) ≤ μ s)
    {s t : σ} {es : List ε} (hI : I s) (hC : M.Along C s es) (ht : M.exec s es = some t) :
    es.countP p + μ t ≤ μ s := by
  induction es generalizing s with
  | nil =>
      cases ht
      simp
  | cons e es ih =>
      obtain ⟨s', hs', ht⟩ := exec_cons_eq_some.mp ht
      obtain ⟨hc, hC⟩ := along_cons hC hs'
      have hrest := ih (hstep s e s' hI hs' hc) hC ht
      have hfirst := hμ s e s' hI hs' hc
      rw [List.countP_cons]
      omega

/-- **Exact conditions.**  If from a state with `I` a step with an event of `Q` satisfies `P` exactly
where it satisfies `C`, and then keeps `I`, then a run of such events satisfies `P` throughout exactly
where it satisfies `C`. -/
theorem along_congr_of_forall {I : σ → Prop} {Q : ε → Prop} {C P : σ → ε → σ → Prop}
    (hiff : ∀ s e s', I s → Q e → M.next s e = some s' → (P s e s' ↔ C s e s'))
    (hstep : ∀ s e s', I s → Q e → M.next s e = some s' → P s e s' → I s')
    {s : σ} (hI : I s) {es : List ε} (hQ : ∀ e ∈ es, Q e) : M.Along P s es ↔ M.Along C s es := by
  induction es generalizing s with
  | nil => exact Iff.rfl
  | cons e es ih =>
      have he := hQ e List.mem_cons_self
      have hes : ∀ e ∈ es, Q e := fun e' he' => hQ e' (List.mem_cons_of_mem e he')
      refine forall_congr' fun s' => forall_congr' fun hs' => ?_
      rw [← hiff s e s' hI he hs']
      exact and_congr_right fun hP => ih (hstep s e s' hI he hs' hP) hes

/-- The same where any event may happen. -/
theorem along_congr {I : σ → Prop} {C P : σ → ε → σ → Prop}
    (hiff : ∀ s e s', I s → M.next s e = some s' → (P s e s' ↔ C s e s'))
    (hstep : ∀ s e s', I s → M.next s e = some s' → P s e s' → I s')
    {s : σ} (hI : I s) (es : List ε) : M.Along P s es ↔ M.Along C s es :=
  along_congr_of_forall (Q := fun _ => True) (fun s e s' hs _ => hiff s e s' hs)
    (fun s e s' hs _ => hstep s e s' hs) hI fun _ _ => trivial

end Machine
