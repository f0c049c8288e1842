import Mathlib.Data.List.Nodup
import Mathlib.Tactic.Lemma
import Mathlib.Tactic.SplitIfs

/-!
# Collections of models

Collections as Backbone has them: models in order, with at most one for each key.  `add` leaves out
what is there already; `fetch` fills an empty collection from what a server has answered, and merges
into what is there already.

* `nodup_add` — the keys stay distinct.
* `find_add` — of the models with one key, the first one is there.
* `mem_iff_find` — a model is the one that is found by its key.
* `fetch_of_nodup` — what a server has answered, where the keys are distinct.
-/

namespace Backbone.Collection

variable {α κ : Type*} [DecidableEq κ] (key : α → κ)

/-- `add`: models whose keys are there already are ignored. -/
def add (c xs : List α) : List α :=
  xs.foldl (fun c x => if key x ∈ c.map key then c else c ++ [x]) c

/-- `fetch`, into an empty collection: a model is made of each object, or the object is merged into the
model that has its key. -/
def fetch {ρ : Type*} (keyOf : ρ → κ) (make : ρ → α) (merge : α → ρ → α) (rs : List ρ) : List α :=
  rs.foldl (fun c r =>
    if keyOf r ∈ c.map key then c.map fun m => if key m = keyOf r then merge m r else m
    else c ++ [make r]) []

variable {key}

lemma add_cons (c : List α) (x : α) (xs : List α) :
    add key c (x :: xs) = add key (if key x ∈ c.map key then c else c ++ [x]) xs := rfl

/-- The keys stay distinct. -/
lemma nodup_add {c : List α} (h : (c.map key).Nodup) (xs : List α) :
    ((add key c xs).map key).Nodup := by
  induction xs generalizing c with
  | nil => exact h
  | cons x xs ih =>
      rw [add_cons]
      split_ifs with hx
      · exact ih h
      · refine ih ?_
        rw [List.map_append]
        refine List.nodup_append.mpr ⟨h, List.pairwise_singleton _ _, ?_⟩
        intro k hk k' hk' heq
        rw [List.map_singleton, List.mem_singleton] at hk'
        exact hx (hk' ▸ heq ▸ hk)

/-- The first one with a key is there. -/
lemma find_add (c xs : List α) (k : κ) :
    (add key c xs).find? (fun x => key x = k)
      = (c.find? fun x => key x = k).or (xs.find? fun x => key x = k) := by
  induction xs generalizing c with
  | nil => simp [add]
  | cons x xs ih =>
      rw [add_cons, ih, List.find?_cons]
      by_cases hx : key x ∈ c.map key
      · rw [if_pos hx]
        by_cases hk : key x = k
        · -- a model with the key is there already
          obtain ⟨y, hy, hyx⟩ := List.mem_map.mp hx
          have hsome : (c.find? fun x => key x = k).isSome :=
            List.find?_isSome.mpr ⟨y, hy, by simpa using hyx.trans hk⟩
          rw [Option.or_of_isSome hsome, Option.or_of_isSome hsome]
        · simp [hk]
      · rw [if_neg hx, List.find?_append, List.find?_singleton]
        by_cases hk : key x = k
        · simp [hk]
        · simp [hk]

/-- Where the keys are distinct, a model is the first one with its key. -/
lemma mem_iff_find {c : List α} (h : (c.map key).Nodup) {x : α} :
    x ∈ c ↔ c.find? (fun y => key y = key x) = some x := by
  refine ⟨fun hx => ?_, List.mem_of_find?_eq_some⟩
  have hsome : (c.find? fun y => key y = key x).isSome :=
    List.find?_isSome.mpr ⟨x, hx, by simp⟩
  obtain ⟨y, hy⟩ := Option.isSome_iff_exists.mp hsome
  have hkey : key y = key x := by simpa using List.find?_some hy
  rw [hy, List.inj_on_of_nodup_map h (List.mem_of_find?_eq_some hy) hx hkey]

/-- Where the keys are distinct, what holds of a model with a key holds of the one that is found. -/
lemma exists_mem_iff_find {c : List α} (h : (c.map key).Nodup) (k : κ) (P : α → Prop) :
    (∃ x ∈ c, key x = k ∧ P x) ↔ ∃ x, c.find? (fun y => key y = k) = some x ∧ P x := by
  constructor
  · rintro ⟨x, hx, rfl, hP⟩
    exact ⟨x, (mem_iff_find h).mp hx, hP⟩
  · rintro ⟨x, hx, hP⟩
    have hkey : key x = k := by simpa using List.find?_some hx
    exact ⟨x, List.mem_of_find?_eq_some hx, hkey, hP⟩

/-- A model that is made has the key of its object. -/
lemma fetch_of_nodup {ρ : Type*} {keyOf : ρ → κ} {make : ρ → α} (merge : α → ρ → α)
    (hmake : ∀ r, key (make r) = keyOf r) {rs : List ρ} (h : (rs.map keyOf).Nodup) :
    fetch key keyOf make merge rs = rs.map make := by
  have hfold : ∀ done : List ρ, ((done ++ rs).map keyOf).Nodup →
      rs.foldl (fun c r =>
        if keyOf r ∈ c.map key then c.map fun m => if key m = keyOf r then merge m r else m
        else c ++ [make r]) (done.map make) = (done ++ rs).map make := by
    clear h
    induction rs with
    | nil => exact fun done _ => by rw [List.append_nil]; rfl
    | cons r rs ih =>
        intro done h
        have hnew : keyOf r ∉ (done.map make).map key := by
          rw [List.map_append, List.nodup_append] at h
          rw [List.map_map]
          intro hmem
          obtain ⟨d, hd, heq⟩ := List.mem_map.mp hmem
          have hkey : keyOf d = keyOf r := (hmake d).symm.trans heq
          exact h.2.2 (keyOf d) (List.mem_map_of_mem hd) (keyOf r)
            (List.mem_map_of_mem List.mem_cons_self) hkey
        rw [List.foldl_cons, if_neg hnew]
        have hrest := ih (done ++ [r]) (by simpa using h)
        rw [List.map_append, List.map_singleton] at hrest
        rw [hrest, List.append_assoc, List.singleton_append]
  exact hfold [] h

end Backbone.Collection
