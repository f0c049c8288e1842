import Snapweb.Core.Members

/-!
# JSON values

JSON over any type of numbers, with the members of an object in the order they are written in, and
maybe with one key several times.

* `JSON.all` — every number of a value satisfies a test.
* `JSON.load` — the value as a reader has it that keeps objects as dictionaries in order.
-/

/-- A JSON value, over the numbers `ν`. -/
inductive JSON (ν : Type*)
  | null
  | bool (b : Bool)
  | number (n : ν)
  | string (s : String)
  | array (vs : List (JSON ν))
  | object (ms : List (String × JSON ν))

namespace JSON

variable {ν ν' : Type*}

mutual

/-- Every number passes a test. -/
def all (p : ν → Bool) : JSON ν → Bool
  | .number n => p n
  | .array vs => allValues p vs
  | .object ms => allMembers p ms
  | .null => true
  | .bool _ => true
  | .string _ => true

/-- Every number in the values passes a test. -/
def allValues (p : ν → Bool) : List (JSON ν) → Bool
  | [] => true
  | v :: vs => v.all p && allValues p vs

/-- Every number in the members passes a test. -/
def allMembers (p : ν → Bool) : List (String × JSON ν) → Bool
  | [] => true
  | (_, v) :: ms => v.all p && allMembers p ms

end

mutual

/-- The value with its numbers converted, and its objects as dictionaries: each key once, at its
first place with its last value. -/
def load (f : ν → ν') : JSON ν → JSON ν'
  | .number n => .number (f n)
  | .array vs => .array (loadValues f vs)
  | .object ms => .object (Members.ofPairs (loadMembers f ms))
  | .null => .null
  | .bool b => .bool b
  | .string s => .string s

def loadValues (f : ν → ν') : List (JSON ν) → List (JSON ν')
  | [] => []
  | v :: vs => v.load f :: loadValues f vs

def loadMembers (f : ν → ν') : List (String × JSON ν) → List (String × JSON ν')
  | [] => []
  | (k, v) :: ms => (k, v.load f) :: loadMembers f ms

end

lemma allMembers_eq_true {p : ν → Bool} {ms : List (String × JSON ν)} :
    allMembers p ms = true ↔ ∀ m ∈ ms, m.2.all p = true := by
  induction ms with
  | nil => simp [allMembers]
  | cons m ms ih =>
      obtain ⟨k, v⟩ := m
      simp [allMembers, ih]

end JSON
