import Mathlib.Tactic.Lemma
import Mathlib.Data.List.Basic

/-!
# Request-and-answer machines

A responder takes a request in a state and gives an answer together with the next state.  A run
is a list of requests; what an observer sees of it is the list of answers.

* `answers` and `after` — the answers to a list of requests, and the state it leaves.
* `answers_eq_of_bisim` — two responders related by a bisimulation give the same answers.
* `after_invariant` — what every request keeps holds after every run.
* `run_congr` — responders that treat each request of a list alike, in every state.
-/

namespace Responder

variable {σ τ ι ω : Type*}

/-- The answers to a list of requests. -/
def answers (f : σ → ι → ω × σ) : σ → List ι → List ω
  | _, [] => []
  | s, i :: is => (f s i).1 :: answers f (f s i).2 is

/-- The state that a list of requests leaves. -/
def after (f : σ → ι → ω × σ) : σ → List ι → σ
  | s, [] => s
  | s, i :: is => after f (f s i).2 is

variable {f : σ → ι → ω × σ} {g : τ → ι → ω × τ}

lemma after_append (s : σ) (is js : List ι) :
    after f s (is ++ js) = after f (after f s is) js := by
  induction is generalizing s with
  | nil => rfl
  | cons i is ih => exact ih (f s i).2

/-- **Invariants.**  What every request keeps holds after every run. -/
theorem after_invariant {I : σ → Prop} (hstep : ∀ s i, I s → I (f s i).2) {s : σ} (hI : I s)
    (is : List ι) : I (after f s is) := by
  induction is generalizing s with
  | nil => exact hI
  | cons i is ih => exact ih (hstep s i hI)

/-- **Bisimulation.**  Related states that answer alike and stay related answer alike forever. -/
theorem answers_eq_of_bisim {R : σ → τ → Prop}
    (hstep : ∀ s t i, R s t → (f s i).1 = (g t i).1 ∧ R (f s i).2 (g t i).2)
    {s : σ} {t : τ} (hR : R s t) (is : List ι) : answers f s is = answers g t is := by
  induction is generalizing s t with
  | nil => rfl
  | cons i is ih =>
      obtain ⟨hans, hR⟩ := hstep s t i hR
      simp only [answers, hans, ih hR]

/-- Responders that treat the requests of a list alike answer them alike, and leave the same. -/
theorem run_congr {f g : σ → ι → ω × σ} {is : List ι} (h : ∀ i ∈ is, ∀ s, f s i = g s i) (s : σ) :
    answers f s is = answers g s is ∧ after f s is = after g s is := by
  induction is generalizing s with
  | nil => exact ⟨rfl, rfl⟩
  | cons i is ih =>
      obtain ⟨hi, his⟩ := List.forall_mem_cons.mp h
      obtain ⟨hanswers, hafter⟩ := ih his (f s i).2
      simp only [answers, after, ← hi s]
      exact ⟨by rw [hanswers], hafter⟩

end Responder
