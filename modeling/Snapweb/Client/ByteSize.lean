import Mathlib.Algebra.Order.Round
import Mathlib.Data.Rat.Floor
import Mathlib.Tactic.FieldSimp
import Mathlib.Tactic.Linarith
import Mathlib.Tactic.NormNum
import Mathlib.Tactic.Positivity
import Snapweb.Client.Moment

/-!
# Sizes of snaps

`controllers/snaps.js` shows a size in bytes with two decimals, in the first unit where it is below
1000.  Numbers are exact here; `toFixed` rounds them, and 999999 bytes become `1000.00kB`.

* `byteSizeLoop_eq` — the unit that a size is shown in.
* `shows_size_iff` — when the number shown is below 1000, too.
-/

namespace Snapweb

/-- A number of hundredths, with two decimals. -/
def hundredths (n : ℕ) : String :=
  toString (n / 100) ++ "." ++ toString (n / 10 % 10) ++ toString (n % 10)

/-- `q.toFixed(2)`, for numbers below 10^21: the nearest one with two decimals, the greater of two. -/
def toFixed2 (q : ℚ) : String :=
  (if q < 0 then "-" else "") ++ hundredths (round (|q| * 100)).toNat

/-- What `byteSizeToString` returns: a text, or the number that is left. -/
inductive SizeText
  | text (shown : String)
  | number (left : JSArg)
  deriving DecidableEq

/-- The units. -/
def suffixes : List String := ["B", "kB", "MB", "GB", "TB", "PB", "EB"]

/-- The loop over the units, with the size in the one that comes next. -/
def byteSizeLoop : List String → JSArg → SizeText
  | [], s => .number s
  | suffix :: rest, .number q =>
      if q < 1000 then .text (toFixed2 q ++ suffix) else byteSizeLoop rest (.number (q / 1000))
  | _ :: rest, s => byteSizeLoop rest (s.div 1000)

/-- `byteSizeToString`. -/
def byteSizeToString (s : JSArg) : SizeText := byteSizeLoop suffixes s

/-! ## The number shown -/

lemma dot_not_mem_toString (n : ℕ) : '.' ∉ (toString n).toList := by
  intro hmem
  rw [Nat.toString_eq_repr, Nat.toList_repr] at hmem
  exact absurd (Nat.isDigit_of_mem_toDigits (by decide) (by decide) hmem) (by decide)

lemma toString_nat_inj {m n : ℕ} (h : (toString m).toList = (toString n).toList) : m = n := by
  rw [Nat.toString_eq_repr, Nat.toString_eq_repr, Nat.toList_repr, Nat.toList_repr] at h
  have hread := congrArg (fun ds => Nat.ofDigitChars 10 ds 0) h
  simpa only [Nat.ofDigitChars_toDigits (by decide : 1 < 10) (by decide : 10 ≤ 10)] using hread

/-- The text of a number with two decimals shows its whole part. -/
lemma hundredths_whole {n n' : ℕ} {unit unit' : String}
    (h : hundredths n ++ unit = hundredths n' ++ unit') : n / 100 = n' / 100 := by
  have hlist : ∀ (n : ℕ) (unit : String), ∃ rest,
      (hundredths n ++ unit).toList = (toString (n / 100)).toList ++ '.' :: rest :=
    fun n unit => ⟨_, by simp only [hundredths, String.toList_append, List.append_assoc]; rfl⟩
  obtain ⟨rest, hrest⟩ := hlist n unit
  obtain ⟨rest', hrest'⟩ := hlist n' unit'
  have hsplit := congrArg (List.splitOn '.') (congrArg String.toList h)
  rw [hrest, hrest', List.splitOn_append_cons_self_of_not_mem (dot_not_mem_toString _),
    List.splitOn_append_cons_self_of_not_mem (dot_not_mem_toString _)] at hsplit
  exact toString_nat_inj (List.cons.inj hsplit).1

/-- A number from 1 is shown rounded to hundredths. -/
lemma toFixed2_eq {q : ℚ} (hq : 1 ≤ q) :
    ∃ n : ℕ, toFixed2 q = hundredths n ∧ 100 ≤ n ∧ |(n : ℚ) / 100 - q| ≤ 1 / 200 ∧
      (n < 100000 ↔ 200 * q < 199999) := by
  have habs : |q| = q := abs_of_nonneg (by linarith)
  have hnear := abs_le.mp (abs_sub_round (q * 100))
  have hlow : (99 : ℤ) < round (q * 100) := by
    have hlow : (99 : ℚ) < round (q * 100) := by linarith
    exact_mod_cast hlow
  have hcast : (((round (q * 100)).toNat : ℕ) : ℤ) = round (q * 100) := Int.toNat_of_nonneg (by omega)
  have hcastq : (((round (q * 100)).toNat : ℕ) : ℚ) = round (q * 100) := by exact_mod_cast hcast
  refine ⟨(round (q * 100)).toNat, ?_, by omega, ?_, ?_⟩
  · rw [toFixed2, habs, if_neg (by linarith)]
    rfl
  · rw [hcastq, abs_le]
    constructor <;> linarith
  · have hround : round (q * 100) < 100000 ↔ 200 * q < 199999 := by
      rw [round_eq, Int.floor_lt]
      push_cast
      constructor <;> intro h <;> linarith
    rw [← hround]
    omega

/-- A size is shown in the first unit where it is below 1000. -/
lemma byteSizeLoop_eq {units : List String} {q : ℚ} (h1 : 1 ≤ q) (hq : q < 1000 ^ units.length) :
    ∃ i unit, units[i]? = some unit ∧ 1 ≤ q / 1000 ^ i ∧ q / 1000 ^ i < 1000 ∧
      byteSizeLoop units (.number q) = .text (toFixed2 (q / 1000 ^ i) ++ unit) := by
  induction units generalizing q with
  | nil =>
      rw [List.length_nil, pow_zero] at hq
      linarith
  | cons unit units ih =>
      rw [byteSizeLoop]
      by_cases hsmall : q < 1000
      · refine ⟨0, unit, rfl, ?_, ?_, ?_⟩
        · simpa using h1
        · simpa using hsmall
        · simp [hsmall]
      · have hlen : q / 1000 < 1000 ^ units.length := by
          rw [List.length_cons, pow_succ] at hq
          linarith
        obtain ⟨i, unit', hunit, hlow, hhigh, hloop⟩ := ih (by linarith : 1 ≤ q / 1000) hlen
        have hpow : q / 1000 / 1000 ^ i = q / 1000 ^ (i + 1) := by
          rw [div_div, pow_succ']
        rw [hpow] at hlow hhigh hloop
        exact ⟨i + 1, unit', hunit, hlow, hhigh, by rw [if_neg hsmall, hloop]⟩

/-- The text shows `m`, with two decimals, and the unit of index `i`. -/
def Prints (shown : SizeText) (m : ℚ) (i : ℕ) : Prop :=
  ∃ (n : ℕ) (unit : String), m = n / 100 ∧ suffixes[i]? = some unit ∧
    shown = .text (hundredths n ++ unit)

/-- A number from 1 and below 1000 is shown, and with its unit it is the size up to rounding. -/
def ShowsSize (shown : SizeText) (s : ℕ) : Prop :=
  ∃ (m : ℚ) (i : ℕ), Prints shown m i ∧ 1 ≤ m ∧ m < 1000 ∧ |m * 1000 ^ i - s| ≤ 0.005 * 1000 ^ i

lemma lt_of_prints {n : ℕ} {unit : String} {m : ℚ} {i : ℕ}
    (h : Prints (.text (hundredths n ++ unit)) m i) (hm : m < 1000) : n < 100000 := by
  obtain ⟨n', unit', rfl, -, htext⟩ := h
  have hwhole := hundredths_whole (SizeText.text.inj htext)
  rw [div_lt_iff₀ (by norm_num)] at hm
  norm_num at hm
  have hn' : n' < 100000 := by exact_mod_cast hm
  omega

/-- In no unit does the size round to 1000. -/
def RoundsBelow (s : ℕ) : Prop := ∀ i : ℕ, s < 1000 ^ (i + 1) → 200 * s < 199999 * 1000 ^ i

/-- It is enough to look at the unit that the size is shown in. -/
lemma roundsBelow_iff {s i : ℕ} (hlow : 1000 ^ i ≤ s) (hhigh : s < 1000 ^ (i + 1)) :
    RoundsBelow s ↔ 200 * s < 199999 * 1000 ^ i := by
  refine ⟨fun h => h i hhigh, fun h j hj => ?_⟩
  rcases lt_trichotomy i j with hij | rfl | hij
  · have hpow : 1000 ^ (i + 1) ≤ 1000 ^ j := Nat.pow_le_pow_right (by decide) hij
    omega
  · exact h
  · have hpow : 1000 ^ (j + 1) ≤ 1000 ^ i := Nat.pow_le_pow_right (by decide) hij
    omega

lemma roundsBelow_iff_of_unit {s i : ℕ} (hlow : (1 : ℚ) ≤ s / 1000 ^ i)
    (hhigh : (s : ℚ) / 1000 ^ i < 1000) :
    RoundsBelow s ↔ 200 * ((s : ℚ) / 1000 ^ i) < 199999 := by
  have hpos : (0 : ℚ) < 1000 ^ i := by positivity
  have hlow' : 1000 ^ i ≤ s := by
    rw [le_div_iff₀ hpos, one_mul] at hlow
    exact_mod_cast hlow
  have hhigh' : s < 1000 ^ (i + 1) := by
    rw [div_lt_iff₀ hpos, ← pow_succ'] at hhigh
    exact_mod_cast hhigh
  rw [roundsBelow_iff hlow' hhigh', ← mul_div_assoc, div_lt_iff₀ hpos]
  norm_cast

/-- A number of hundredths from 100 and below 100000, near the size in the unit, shows the size. -/
lemma showsSize_of_near {s n i : ℕ} {unit : String} (hunit : suffixes[i]? = some unit)
    (hn : 100 ≤ n) (hlt : n < 100000) (hnear : |(n : ℚ) / 100 - s / 1000 ^ i| ≤ 1 / 200) :
    ShowsSize (.text (hundredths n ++ unit)) s := by
  have hpos : (0 : ℚ) < 1000 ^ i := by positivity
  refine ⟨n / 100, i, ⟨n, unit, rfl, hunit, rfl⟩, ?_, ?_, ?_⟩
  · rw [le_div_iff₀ (by norm_num)]
    norm_num
    exact_mod_cast hn
  · rw [div_lt_iff₀ (by norm_num)]
    norm_num
    exact_mod_cast hlt
  · have hscale : (n : ℚ) / 100 * 1000 ^ i - s = ((n : ℚ) / 100 - s / 1000 ^ i) * 1000 ^ i := by
      field_simp
    rw [hscale, abs_mul, abs_of_pos hpos]
    exact mul_le_mul_of_nonneg_right (hnear.trans (by norm_num)) hpos.le

/-- **Sizes shown below 1000.**  From 1 to 10^21, a size is shown as a number from 1 and below 1000,
in a unit where that is the size up to rounding, exactly if it does not round to 1000 in the unit
that it is shown in. -/
theorem shows_size_iff (s : ℕ) (h1 : 1 ≤ s) (hs : s < 10 ^ 21) :
    ShowsSize (byteSizeToString (.number s)) s ↔ RoundsBelow s := by
  have hs' : (s : ℚ) < 1000 ^ suffixes.length := by
    have hpow : (1000 : ℚ) ^ suffixes.length = (10 ^ 21 : ℕ) := by norm_num [suffixes]
    rw [hpow]
    exact_mod_cast hs
  obtain ⟨i, unit, hunit, hlow, hhigh, hloop⟩ := byteSizeLoop_eq (by exact_mod_cast h1) hs'
  obtain ⟨n, hfixed, hn, hnear, hbelow⟩ := toFixed2_eq hlow
  rw [byteSizeToString, hloop, hfixed, roundsBelow_iff_of_unit hlow hhigh, ← hbelow]
  constructor
  · rintro ⟨m, j, hprints, -, hm, -⟩
    exact lt_of_prints hprints hm
  · exact fun hlt => showsSize_of_near hunit hn hlt hnear

example : byteSizeToString (.number 4096) = .text "4.10kB" := by decide +kernel

/-- The size of a page is shown below 1000. -/
theorem shows_size_of_page : ShowsSize (byteSizeToString (.number (4096 : ℕ))) 4096 :=
  (shows_size_iff 4096 (by norm_num) (by norm_num)).mpr <|
    (roundsBelow_iff (i := 1) (by norm_num) (by norm_num)).mpr (by norm_num)

/-- 999999 bytes are shown as `1000.00kB`. -/
theorem megabyte_shown_as_1000_kB :
    ¬ ∀ s : ℕ, 1 ≤ s → s < 10 ^ 21 → ShowsSize (byteSizeToString (.number s)) s := by
  intro h
  obtain ⟨m, i, hprints, -, hm, -⟩ := h 999999 (by norm_num) (by norm_num)
  have hshown : byteSizeToString (.number (999999 : ℕ)) = .text (hundredths 100000 ++ "kB") := by
    decide +kernel
  rw [hshown] at hprints
  exact absurd (lt_of_prints hprints hm) (by decide)

/-! ## The size in a snap's view -/

end Snapweb
