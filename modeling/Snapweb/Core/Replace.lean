import Mathlib.Data.List.Infix
import Mathlib.Data.Nat.Notation
import Mathlib.Tactic.Lemma
import Mathlib.Tactic.SplitIfs

/-!
# Replacing parts of a text

`strings.Replace` of all occurrences of a text that is not empty, from left to right.

* `replace_append_cons` — a text is replaced in parts where no occurrence goes over the border.
* `replace_eq_self_iff` — replacing by another text of the same length leaves a text as it is exactly
  if there is no occurrence.
-/

namespace Strings

variable {α : Type*} [DecidableEq α]

/-- The replaced text, without the first elements of it, which belong to an occurrence. -/
def replaceAfter (old new : List α) : ℕ → List α → List α
  | _, [] => []
  | skip + 1, _ :: cs => replaceAfter old new skip cs
  | 0, c :: cs =>
      if old <+: c :: cs then new ++ replaceAfter old new (old.length - 1) cs
      else c :: replaceAfter old new 0 cs

/-- `strings.Replace` of all occurrences. -/
def replace (old new s : List α) : List α := replaceAfter old new 0 s

variable {old new : List α}

lemma replaceAfter_drop (skip : ℕ) (s : List α) :
    replaceAfter old new skip s = replace old new (s.drop skip) := by
  induction skip generalizing s with
  | zero => rfl
  | succ skip ih =>
      cases s with
      | nil => rfl
      | cons c cs => exact ih cs

/-- A text that begins with an occurrence. -/
lemma replace_occurrence (hold : old ≠ []) (s : List α) :
    replace old new (old ++ s) = new ++ replace old new s := by
  obtain ⟨c, cs, rfl⟩ := List.exists_cons_of_ne_nil hold
  rw [replace, List.cons_append, replaceAfter,
    if_pos (show c :: cs <+: c :: (cs ++ s) from List.prefix_append (c :: cs) s), replaceAfter_drop,
    List.length_cons, Nat.add_sub_cancel, List.drop_left]

/-- A text that does not. -/
lemma replace_cons {c : α} {cs : List α} (h : ¬ old <+: c :: cs) :
    replace old new (c :: cs) = c :: replace old new cs := by
  rw [replace, replaceAfter, if_neg h]
  rfl

/-- Induction on a text by its occurrences from left to right. -/
lemma replace_induction {P : List α → Prop} (hold : old ≠ []) (hnil : P [])
    (hoccurs : ∀ s, P s → P (old ++ s)) (hcons : ∀ c cs, ¬ old <+: c :: cs → P cs → P (c :: cs))
    (s : List α) : P s := by
  induction hlen : s.length using Nat.strong_induction_on generalizing s with
  | _ n ih =>
      cases s with
      | nil => exact hnil
      | cons c cs =>
          by_cases hpre : old <+: c :: cs
          · obtain ⟨rest, hrest⟩ := hpre
            have hpos := List.length_pos_iff.mpr hold
            have hlt : rest.length < n := by
              rw [← hlen, ← hrest, List.length_append]
              omega
            rw [← hrest]
            exact hoccurs rest (ih rest.length hlt rest rfl)
          · have hlt : cs.length < n := by
              rw [← hlen, List.length_cons]
              omega
            exact hcons c cs hpre (ih cs.length hlt cs rfl)

lemma length_replace (hold : old ≠ []) (hlen : new.length = old.length) (s : List α) :
    (replace old new s).length = s.length := by
  induction s using replace_induction hold with
  | hnil => rfl
  | hoccurs s ih => rw [replace_occurrence hold, List.length_append, List.length_append, ih, hlen]
  | hcons c cs hno ih => rw [replace_cons hno, List.length_cons, List.length_cons, ih]

/-- Without an occurrence nothing is replaced. -/
lemma replace_of_not_infix {s : List α} (h : ¬ old <:+: s) : replace old new s = s := by
  induction s with
  | nil => rfl
  | cons c cs ih =>
      rw [replace_cons fun hpre => h hpre.isInfix, ih fun hinf => h (List.infix_cons hinf)]

/-- **Nothing is replaced** by another text of the same length exactly if there is no occurrence. -/
theorem replace_eq_self_iff (hold : old ≠ []) (hlen : new.length = old.length) (hne : new ≠ old)
    (s : List α) : replace old new s = s ↔ ¬ old <:+: s := by
  refine ⟨fun h => ?_, replace_of_not_infix⟩
  induction s using replace_induction hold with
  | hnil => exact fun hinf => hold (List.infix_nil.mp hinf)
  | hoccurs s ih =>
      rw [replace_occurrence hold] at h
      exact absurd (List.append_inj_left h hlen) hne
  | hcons c cs hno ih =>
      rw [replace_cons hno] at h
      rw [List.infix_cons_iff, not_or]
      exact ⟨hno, ih (List.cons.inj h).2⟩

omit [DecidableEq α] in
/-- An occurrence does not go over an element that is not in it after its first one. -/
lemma prefix_append_cons_iff {c : α} {s t : List α} (hc : c ∉ old.tail) (hs : s ≠ []) :
    old <+: s ++ c :: t ↔ old <+: s := by
  refine ⟨fun hpre => ?_, fun hpre => hpre.trans (List.prefix_append s _)⟩
  obtain hlt | hle := Nat.lt_or_ge s.length old.length
  · -- the element would be in the occurrence, after its first one
    exfalso
    obtain ⟨rest, hrest⟩ := List.prefix_of_prefix_length_le (List.prefix_append s (c :: t)) hpre
      hlt.le
    have hne : rest ≠ [] := by
      rintro rfl
      rw [List.append_nil] at hrest
      rw [hrest] at hlt
      exact Nat.lt_irrefl _ hlt
    obtain ⟨d, ds, rfl⟩ := List.exists_cons_of_ne_nil hne
    rw [← hrest, List.prefix_append_right_inj, List.cons_prefix_cons] at hpre
    obtain ⟨e, es, rfl⟩ := List.exists_cons_of_ne_nil hs
    refine hc ?_
    rw [← hrest, List.cons_append, List.tail_cons, hpre.1]
    exact List.mem_append_right es List.mem_cons_self
  · exact List.prefix_of_prefix_length_le hpre (List.prefix_append s _) hle

/-- A text is replaced in parts, where the second one begins with what is in no occurrence after its
first element. -/
lemma replace_append_cons (hold : old ≠ []) {c : α} (hc : c ∉ old.tail) (s t : List α) :
    replace old new (s ++ c :: t) = replace old new s ++ replace old new (c :: t) := by
  induction s using replace_induction hold with
  | hnil => rfl
  | hoccurs s ih =>
      rw [List.append_assoc, replace_occurrence hold, replace_occurrence hold, ih, List.append_assoc]
  | hcons d ds hno ih =>
      have hno' : ¬ old <+: d :: (ds ++ c :: t) := fun hpre =>
        hno ((prefix_append_cons_iff hc (List.cons_ne_nil d ds)).mp hpre)
      rw [List.cons_append, replace_cons hno', ih, replace_cons hno, List.cons_append]

end Strings
