import Mathlib.Tactic.Lemma
import Mathlib.Data.List.Basic

/-!
# Members in order

Keys with values in the order they were written in, as configuration files and JSON objects have
them.  `insert` puts a value in the place of the key's first one, or at the end; `ofPairs` makes
members with distinct keys of any pairs, each key at its first place with its last value.

* `find_insert_self`, `find_erase_self` — lookups.
* `map_insert` — what an insertion leaves as it was.
* `find_eq_some_iff` — where the keys are distinct, the order does not matter to a lookup.
* `find_map`, `ofPairs_map` — members with other values under the same keys.
* `mem_insert` — the members with an inserted one.
* `ofPairs_of_nodup` — pairs with distinct keys are kept as they are.
* `find_present` — members some of which have no value.
-/

namespace Members

variable {κ ν : Type*} [DecidableEq κ]

/-- The value of a key. -/
def find (k : κ) : List (κ × ν) → Option ν
  | [] => none
  | (k', v) :: ms => if k' = k then some v else find k ms

/-- Give a key a value, in its place if it has one. -/
def insert (k : κ) (v : ν) : List (κ × ν) → List (κ × ν)
  | [] => [(k, v)]
  | (k', v') :: ms => if k' = k then (k, v) :: ms else (k', v') :: insert k v ms

/-- Without a key. -/
def erase (k : κ) (ms : List (κ × ν)) : List (κ × ν) := ms.filter fun m => m.1 ≠ k

/-- The members that a list of pairs makes. -/
def ofPairs (ps : List (κ × ν)) : List (κ × ν) := ps.foldl (fun ms p => insert p.1 p.2 ms) []

lemma find_insert_self (k : κ) (v : ν) (ms : List (κ × ν)) : find k (insert k v ms) = some v := by
  induction ms with
  | nil => exact if_pos rfl
  | cons m ms ih =>
      rw [insert]
      split_ifs with h
      · exact if_pos rfl
      · rw [find, if_neg h, ih]

lemma find_erase_self (k : κ) (ms : List (κ × ν)) : find k (erase k ms) = none := by
  induction ms with
  | nil => rfl
  | cons m ms ih =>
      by_cases h : m.1 = k
      · rw [erase, List.filter_cons_of_neg (by simpa using h)]
        exact ih
      · rw [erase, List.filter_cons_of_pos (by simpa using h), find, if_neg h]
        exact ih

lemma erase_insert_self (k : κ) (v : ν) (ms : List (κ × ν)) :
    erase k (insert k v ms) = erase k ms := by
  induction ms with
  | nil => simp [insert, erase]
  | cons m ms ih =>
      rw [insert]
      split_ifs with h
      · rw [erase, erase, List.filter_cons_of_neg (by simp), List.filter_cons_of_neg (by simp [h])]
      · rw [erase, erase, List.filter_cons_of_pos (by simpa using h),
          List.filter_cons_of_pos (by simpa using h)]
        exact congrArg (m :: ·) ih

lemma erase_erase_self (k : κ) (ms : List (κ × ν)) : erase k (erase k ms) = erase k ms := by
  rw [erase, erase, List.filter_filter]
  exact List.filter_congr fun m _ => Bool.and_self _

/-- What does not see the change of a value does not see the insertion. -/
lemma map_insert {α : Type*} {f : κ × ν → α} {k : κ} {v v' : ν} {ms : List (κ × ν)}
    (hfind : find k ms = some v) (hf : f (k, v') = f (k, v)) :
    (insert k v' ms).map f = ms.map f := by
  induction ms with
  | nil => cases hfind
  | cons m ms ih =>
      rw [find] at hfind
      rw [insert]
      split_ifs at hfind ⊢ with h
      · obtain ⟨k', w⟩ := m
        cases hfind
        cases h
        rw [List.map_cons, List.map_cons, hf]
      · rw [List.map_cons, List.map_cons, ih hfind]

lemma find_append (k : κ) (ms ns : List (κ × ν)) :
    find k (ms ++ ns) = (find k ms).or (find k ns) := by
  induction ms with
  | nil => rfl
  | cons m ms ih =>
      rw [List.cons_append, find, find]
      split_ifs
      · rfl
      · exact ih

lemma find_eq_none {k : κ} {ms : List (κ × ν)} (h : k ∉ ms.map Prod.fst) : find k ms = none := by
  induction ms with
  | nil => rfl
  | cons m ms ih =>
      rw [List.map_cons, List.mem_cons, not_or] at h
      rw [find, if_neg (Ne.symm h.1)]
      exact ih h.2

lemma mem_of_find {k : κ} {v : ν} {ms : List (κ × ν)} (h : find k ms = some v) : (k, v) ∈ ms := by
  induction ms with
  | nil => cases h
  | cons m ms ih =>
      rw [find] at h
      split_ifs at h with hm
      · cases h
        exact List.mem_cons.mpr (.inl (Prod.ext hm.symm rfl))
      · exact List.mem_cons_of_mem _ (ih h)

/-- Where the keys are distinct, a lookup finds any member. -/
lemma find_eq_some_iff {k : κ} {v : ν} {ms : List (κ × ν)} (hms : (ms.map Prod.fst).Nodup) :
    find k ms = some v ↔ (k, v) ∈ ms := by
  refine ⟨mem_of_find, fun h => ?_⟩
  induction ms with
  | nil => cases h
  | cons m ms ih =>
      rw [List.map_cons, List.nodup_cons] at hms
      rcases List.mem_cons.mp h with rfl | h
      · exact if_pos rfl
      · have hne : m.1 ≠ k := fun hm => hms.1 (hm ▸ List.mem_map_of_mem (f := Prod.fst) h)
        rw [find, if_neg hne]
        exact ih hms.2 h

/-! ## Other values -/

section
variable {ν' : Type*} (f : ν → ν')

lemma find_map (k : κ) (ms : List (κ × ν)) :
    find k (ms.map fun m => (m.1, f m.2)) = (find k ms).map f := by
  induction ms with
  | nil => rfl
  | cons m ms ih =>
      rw [List.map_cons, find, find]
      split_ifs
      · rfl
      · exact ih

lemma insert_map (k : κ) (v : ν) (ms : List (κ × ν)) :
    insert k (f v) (ms.map fun m => (m.1, f m.2)) = (insert k v ms).map fun m => (m.1, f m.2) := by
  induction ms with
  | nil => rfl
  | cons m ms ih =>
      rw [List.map_cons, insert, insert]
      split_ifs
      · rfl
      · rw [List.map_cons, ih]

lemma ofPairs_map (ps : List (κ × ν)) :
    ofPairs (ps.map fun p => (p.1, f p.2)) = (ofPairs ps).map fun m => (m.1, f m.2) := by
  have hfold : ∀ ms : List (κ × ν),
      (ps.map fun p => (p.1, f p.2)).foldl (fun ms p => insert p.1 p.2 ms)
          (ms.map fun m => (m.1, f m.2))
        = (ps.foldl (fun ms p => insert p.1 p.2 ms) ms).map fun m => (m.1, f m.2) := by
    induction ps with
    | nil => exact fun ms => rfl
    | cons p ps ih =>
        intro ms
        rw [List.map_cons, List.foldl_cons, List.foldl_cons, ← ih, ← insert_map]
  exact hfold []

end

/-! ## Where an inserted member stands -/

/-- The members after a key's first one. -/
def after (k : κ) : List (κ × ν) → List (κ × ν)
  | [] => []
  | m :: ms => if m.1 = k then ms else after k ms

lemma keys_insert (k : κ) (v : ν) (ms : List (κ × ν)) :
    (insert k v ms).map Prod.fst
      = if k ∈ ms.map Prod.fst then ms.map Prod.fst else ms.map Prod.fst ++ [k] := by
  induction ms with
  | nil => rfl
  | cons m ms ih =>
      by_cases h : m.1 = k
      · rw [insert, if_pos h, List.map_cons, List.map_cons, if_pos (by rw [h]; exact List.mem_cons_self),
          h]
      · rw [insert, if_neg h, List.map_cons, ih, List.map_cons]
        by_cases hk : k ∈ ms.map Prod.fst
        · rw [if_pos hk, if_pos (List.mem_cons_of_mem _ hk)]
        · rw [if_neg hk, if_neg (by rw [List.mem_cons, not_or]; exact ⟨Ne.symm h, hk⟩)]
          rfl

lemma insert_of_notMem {k : κ} {v : ν} {ms : List (κ × ν)} (h : k ∉ ms.map Prod.fst) :
    insert k v ms = ms ++ [(k, v)] := by
  induction ms with
  | nil => rfl
  | cons m ms ih =>
      rw [List.map_cons, List.mem_cons, not_or] at h
      rw [insert, if_neg (Ne.symm h.1), ih h.2, List.cons_append]

/-- Pairs with distinct keys are kept as they are. -/
lemma ofPairs_of_nodup {ps : List (κ × ν)} (h : (ps.map Prod.fst).Nodup) : ofPairs ps = ps := by
  have hfold : ∀ ms : List (κ × ν), ((ms ++ ps).map Prod.fst).Nodup →
      ps.foldl (fun ms p => insert p.1 p.2 ms) ms = ms ++ ps := by
    clear h
    induction ps with
    | nil => exact fun ms _ => (List.append_nil ms).symm
    | cons p ps ih =>
        intro ms h
        have hnotMem : p.1 ∉ ms.map Prod.fst := by
          rw [List.map_append, List.nodup_append] at h
          exact fun hmem => h.2.2 p.1 hmem p.1 (List.mem_map_of_mem List.mem_cons_self) rfl
        rw [List.foldl_cons, insert_of_notMem hnotMem, ih]
        · simp
        · simpa using h
  exact hfold [] h

/-- Where a key is there once at most, a member inserted for it takes the place of that one alone. -/
lemma mem_insert {k : κ} {v : ν} {ms : List (κ × ν)} (h : (ms.map Prod.fst).count k ≤ 1) (m : κ × ν) :
    m ∈ insert k v ms ↔ m = (k, v) ∨ (m ∈ ms ∧ m.1 ≠ k) := by
  induction ms with
  | nil => simp [insert]
  | cons n ms ih =>
      rw [List.map_cons, List.count_cons] at h
      by_cases hn : n.1 = k
      · have hnone : k ∉ ms.map Prod.fst := by
          rw [if_pos (by simpa using hn)] at h
          exact List.count_eq_zero.mp (by omega)
        have hms : m ∈ ms → m.1 ≠ k := fun hm heq =>
          hnone (heq ▸ List.mem_map_of_mem (f := Prod.fst) hm)
        rw [insert, if_pos hn, List.mem_cons, List.mem_cons]
        refine or_congr_right ⟨fun hm => ⟨.inr hm, hms hm⟩, fun hm => ?_⟩
        exact hm.1.resolve_left fun heq => hm.2 (heq ▸ hn)
      · rw [if_neg (by simpa using hn), Nat.add_zero] at h
        rw [insert, if_neg hn, List.mem_cons, List.mem_cons, ih h]
        constructor
        · rintro (rfl | rfl | hm)
          · exact .inr ⟨.inl rfl, hn⟩
          · exact .inl rfl
          · exact .inr ⟨.inr hm.1, hm.2⟩
        · rintro (rfl | ⟨rfl | hm, hne⟩)
          · exact .inr (.inl rfl)
          · exact .inl rfl
          · exact .inr (.inr ⟨hm, hne⟩)

/-- Another key is there as often after an insertion. -/
lemma count_insert_of_ne {k k' : κ} (hne : k' ≠ k) (v : ν) (ms : List (κ × ν)) :
    ((insert k v ms).map Prod.fst).count k' = (ms.map Prod.fst).count k' := by
  rw [keys_insert]
  split_ifs
  · rfl
  · rw [List.count_append, List.count_singleton, if_neg (by simpa using hne.symm), Nat.add_zero]

/-! ## Members without a value -/

/-- The members that have a value. -/
def present (ms : List (κ × Option ν)) : List (κ × ν) :=
  ms.filterMap fun m => m.2.map fun v => (m.1, v)

omit [DecidableEq κ] in
lemma keys_present (ms : List (κ × Option ν)) :
    ((present ms).map Prod.fst).Sublist (ms.map Prod.fst) := by
  induction ms with
  | nil => exact List.Sublist.slnil
  | cons m ms ih =>
      obtain ⟨k, - | v⟩ := m
      · exact ih.cons k
      · exact ih.cons_cons k

/-- Where the keys are distinct, a lookup finds the value of a member that has one. -/
lemma find_present {ms : List (κ × Option ν)} (h : (ms.map Prod.fst).Nodup) (k : κ) :
    find k (ofPairs (present ms)) = (find k ms).join := by
  rw [ofPairs_of_nodup ((keys_present ms).nodup h)]
  induction ms with
  | nil => rfl
  | cons m ms ih =>
      rw [List.map_cons, List.nodup_cons] at h
      obtain ⟨k', v⟩ := m
      rw [find]
      cases v with
      | some v =>
          show find k ((k', v) :: present ms) = _
          rw [find, ih h.2]
          split_ifs <;> rfl
      | none =>
          show find k (present ms) = _
          split_ifs with hk
          · -- no other member has the key
            refine find_eq_none fun hmem => h.1 ?_
            rw [hk]
            exact (keys_present ms).subset hmem
          · exact ih h.2

end Members
