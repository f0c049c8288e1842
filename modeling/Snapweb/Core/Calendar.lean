import Mathlib.Data.Int.Notation
import Mathlib.Data.Nat.Notation
import Mathlib.Tactic.Lemma
import Mathlib.Tactic.IntervalCases
import Mathlib.Tactic.SplitIfs
import Mathlib.Algebra.BigOperators.Group.List.Basic

/-!
# The Gregorian calendar

Dates, in the Gregorian calendar without a beginning or an end, and instants as seconds since the
start of 1970.  Every day has one date, and every second one date and time of day.

* `locate_spec`, `locate_eq` — the part of a divided number that a smaller one is in.
* `dateOf_dayNumber`, `dayNumber_dateOf` — a day and its date.
* `civilOf_eq_iff` — a second, and its date and time of day.
-/

namespace Calendar

/-! ## Parts of given lengths -/

/-- The part that a number is in, where parts of the given lengths follow each other, and how far it
is in there. -/
def locate : List ℕ → ℕ → ℕ × ℕ
  | [], n => (0, n)
  | l :: ls, n => if n < l then (0, n) else ((locate ls (n - l)).1 + 1, (locate ls (n - l)).2)

/-- Where a part starts. -/
def partStart (ls : List ℕ) (i : ℕ) : ℕ := (ls.take i).sum

/-- The number is in the part that it is located in. -/
lemma locate_spec {ls : List ℕ} {n : ℕ} (h : n < ls.sum) :
    partStart ls (locate ls n).1 + (locate ls n).2 = n ∧
      (locate ls n).2 < ls.getD (locate ls n).1 0 := by
  induction ls generalizing n with
  | nil => exact absurd h (Nat.not_lt_zero n)
  | cons l ls ih =>
      rw [locate]
      split_ifs with hl
      · exact ⟨Nat.zero_add n, hl⟩
      · rw [List.sum_cons] at h
        obtain ⟨hsum, hlt⟩ := ih (n := n - l) (by omega)
        refine ⟨?_, hlt⟩
        rw [partStart, List.take_succ_cons, List.sum_cons]
        rw [partStart] at hsum
        omega

/-- The only part. -/
lemma locate_eq {ls : List ℕ} {i r : ℕ} (h : r < ls.getD i 0) :
    locate ls (partStart ls i + r) = (i, r) := by
  induction ls generalizing i with
  | nil => exact absurd h (Nat.not_lt_zero r)
  | cons l ls ih =>
      cases i with
      | zero =>
          rw [partStart, List.take_zero, List.sum_nil, Nat.zero_add, locate]
          exact if_pos h
      | succ i =>
          have hrest : partStart (l :: ls) (i + 1) + r - l = partStart ls i + r := by
            rw [partStart, List.take_succ_cons, List.sum_cons, ← partStart]
            omega
          have hnot : ¬ partStart (l :: ls) (i + 1) + r < l := by
            rw [partStart, List.take_succ_cons, List.sum_cons]
            omega
          rw [locate, if_neg hnot, hrest, ih h]

/-- A part ends before the end of the last one. -/
lemma partStart_add_lt {ls : List ℕ} {i r : ℕ} (h : r < ls.getD i 0) :
    partStart ls i + r < ls.sum := by
  induction ls generalizing i with
  | nil => exact absurd h (Nat.not_lt_zero r)
  | cons l ls ih =>
      cases i with
      | zero =>
          have hl : r < l := h
          rw [partStart, List.take_zero, List.sum_nil, List.sum_cons]
          omega
      | succ i =>
          have hrest := ih h
          rw [partStart] at hrest
          rw [partStart, List.take_succ_cons, List.sum_cons, List.sum_cons]
          omega

/-! ## Years -/

/-- A leap year. -/
def isLeap (y : ℤ) : Bool := (y % 4 == 0 && y % 100 != 0) || y % 400 == 0

/-- The length of a year. -/
def yearLength (y : ℤ) : ℕ := if isLeap y then 366 else 365

/-- The days from the start of the year 0 to the start of a year. -/
def yearStart (y : ℤ) : ℤ := 365 * y + (y + 3) / 4 - (y + 99) / 100 + (y + 399) / 400

/-- The year of a day: the one that it would be in if all years had the same length, or a year next
to that one. -/
def yearOf (n : ℤ) : ℤ :=
  let y := n * 400 / 146097
  if n < yearStart y then y - 1 else if n < yearStart (y + 1) then y else y + 1

lemma yearStart_succ (y : ℤ) : yearStart (y + 1) = yearStart y + yearLength y := by
  rw [yearLength, isLeap, yearStart, yearStart]
  split_ifs with h <;> simp at h <;> omega

lemma yearStart_le {y y' : ℤ} (h : y < y') : yearStart (y + 1) ≤ yearStart y' := by
  rw [yearStart, yearStart]
  omega

/-- A year starts within two days of where it would if all years had the same length. -/
lemma yearStart_bounds (y : ℤ) :
    146097 * y - 396 ≤ 400 * yearStart y ∧ 400 * yearStart y ≤ 146097 * y + 699 := by
  rw [yearStart]
  omega

lemma yearOf_spec (n : ℤ) : yearStart (yearOf n) ≤ n ∧ n < yearStart (yearOf n + 1) := by
  dsimp only [yearOf]
  have hbefore := yearStart_bounds (n * 400 / 146097 - 1)
  have hafter := yearStart_bounds (n * 400 / 146097 + 1 + 1)
  split_ifs with hearly hlate
  · rw [Int.sub_add_cancel]
    omega
  · omega
  · omega

lemma yearOf_eq {y n : ℤ} (hstart : yearStart y ≤ n) (hend : n < yearStart (y + 1)) :
    yearOf n = y := by
  obtain ⟨hstart', hend'⟩ := yearOf_spec n
  obtain hlt | heq | hgt := Int.lt_trichotomy (yearOf n) y
  · have hle := yearStart_le hlt
    omega
  · exact heq
  · have hle := yearStart_le hgt
    omega

/-! ## Dates -/

/-- The lengths of the months. -/
def monthLengths (leap : Bool) : List ℕ :=
  [31, if leap then 29 else 28, 31, 30, 31, 30, 31, 31, 30, 31, 30, 31]

/-- The length of a month; there is no day in a month after the twelfth. -/
def daysInMonth (y : ℤ) (m : ℕ) : ℕ := (monthLengths (isLeap y)).getD (m - 1) 0

/-- A date, with months and days from 1 on. -/
@[ext]
structure Date where
  year : ℤ
  month : ℕ
  day : ℕ
  month_pos : 1 ≤ month
  day_pos : 1 ≤ day
  day_le : day ≤ daysInMonth year month
  deriving DecidableEq

/-- The days from the start of the year 0 to the start of 1970. -/
def epochStart : ℤ := 719528

/-- The day of a date, from the start of 1970. -/
def Date.dayNumber (d : Date) : ℤ :=
  yearStart d.year + partStart (monthLengths (isLeap d.year)) (d.month - 1) + (d.day - 1 : ℕ)
    - epochStart

lemma sum_monthLengths (y : ℤ) : (monthLengths (isLeap y)).sum = yearLength y := by
  rw [yearLength]
  cases isLeap y <;> rfl

/-- The day of the year. -/
def dayOfYear (n : ℤ) : ℕ := (n + epochStart - yearStart (yearOf (n + epochStart))).toNat

/-- The month and the day in it, both from 0 on. -/
def monthDay (n : ℤ) : ℕ × ℕ :=
  locate (monthLengths (isLeap (yearOf (n + epochStart)))) (dayOfYear n)

lemma dayOfYear_spec (n : ℤ) :
    yearStart (yearOf (n + epochStart)) + dayOfYear n = n + epochStart ∧
      dayOfYear n < yearLength (yearOf (n + epochStart)) := by
  obtain ⟨hstart, hend⟩ := yearOf_spec (n + epochStart)
  rw [yearStart_succ] at hend
  rw [dayOfYear]
  omega

lemma monthDay_spec (n : ℤ) :
    partStart (monthLengths (isLeap (yearOf (n + epochStart)))) (monthDay n).1 + (monthDay n).2
        = dayOfYear n ∧
      (monthDay n).2 < daysInMonth (yearOf (n + epochStart)) ((monthDay n).1 + 1) := by
  refine locate_spec ?_
  rw [sum_monthLengths]
  exact (dayOfYear_spec n).2

/-- The date of a day. -/
def dateOf (n : ℤ) : Date where
  year := yearOf (n + epochStart)
  month := (monthDay n).1 + 1
  day := (monthDay n).2 + 1
  month_pos := Nat.le_add_left 1 _
  day_pos := Nat.le_add_left 1 _
  day_le := (monthDay_spec n).2

/-- **The date of a day** is of that day. -/
theorem dayNumber_dateOf (n : ℤ) : (dateOf n).dayNumber = n := by
  have hyear := (dayOfYear_spec n).1
  have hmonth := (monthDay_spec n).1
  rw [Date.dayNumber]
  dsimp only [dateOf]
  rw [Nat.add_sub_cancel, Nat.add_sub_cancel]
  omega

/-- A date is in its year. -/
lemma Date.dayOfYear_lt (d : Date) :
    partStart (monthLengths (isLeap d.year)) (d.month - 1) + (d.day - 1) < yearLength d.year := by
  have hlt : d.day - 1 < daysInMonth d.year d.month := by
    have hpos := d.day_pos
    have hle := d.day_le
    omega
  rw [← sum_monthLengths]
  exact partStart_add_lt hlt

lemma yearOf_dayNumber (d : Date) : yearOf (d.dayNumber + epochStart) = d.year := by
  have hlt := d.dayOfYear_lt
  refine yearOf_eq ?_ ?_
  · rw [Date.dayNumber]
    omega
  · rw [Date.dayNumber, yearStart_succ]
    omega

lemma monthDay_dayNumber (d : Date) : monthDay d.dayNumber = (d.month - 1, d.day - 1) := by
  have hday : dayOfYear d.dayNumber
      = partStart (monthLengths (isLeap d.year)) (d.month - 1) + (d.day - 1) := by
    rw [dayOfYear, yearOf_dayNumber, Date.dayNumber]
    omega
  have hlt : d.day - 1 < daysInMonth d.year d.month := by
    have hpos := d.day_pos
    have hle := d.day_le
    omega
  rw [monthDay, hday, yearOf_dayNumber]
  exact locate_eq hlt

/-- **The day of a date** has that date. -/
theorem dateOf_dayNumber (d : Date) : dateOf d.dayNumber = d := by
  have hmonth := monthDay_dayNumber d
  refine Date.ext (yearOf_dayNumber d) ?_ ?_
  · change (monthDay d.dayNumber).1 + 1 = d.month
    rw [hmonth]
    exact Nat.sub_add_cancel d.month_pos
  · change (monthDay d.dayNumber).2 + 1 = d.day
    rw [hmonth]
    exact Nat.sub_add_cancel d.day_pos

/-! ## Changing a part of a date -/

lemma Date.month_le (d : Date) : d.month ≤ 12 := by
  by_contra hgt
  have hzero : daysInMonth d.year d.month = 0 := by
    have hlength : (monthLengths (isLeap d.year)).length ≤ d.month - 1 :=
      Nat.le_sub_one_of_lt (Nat.lt_of_not_le hgt)
    rw [daysInMonth, List.getD_eq_getElem?_getD, List.getElem?_eq_none hlength, Option.getD_none]
  have hpos := d.day_pos
  have hle := d.day_le
  omega

lemma daysInMonth_pos (y : ℤ) {m : ℕ} (hm : m ≤ 12) : 1 ≤ daysInMonth y m := by
  rw [daysInMonth]
  cases isLeap y <;> interval_cases m <;> decide

/-- The date in another year, on the last day of the month if the month is too short there. -/
def Date.withYear (d : Date) (y : ℤ) : Date where
  year := y
  month := d.month
  day := min d.day (daysInMonth y d.month)
  month_pos := d.month_pos
  day_pos := Nat.le_min.mpr ⟨d.day_pos, daysInMonth_pos y d.month_le⟩
  day_le := Nat.min_le_right _ _

/-- The date in another month, on the last day of it if it is too short. -/
def Date.withMonth (d : Date) (m : ℕ) (hpos : 1 ≤ m) (hle : m ≤ 12) : Date where
  year := d.year
  month := m
  day := min d.day (daysInMonth d.year m)
  month_pos := hpos
  day_pos := Nat.le_min.mpr ⟨d.day_pos, daysInMonth_pos d.year hle⟩
  day_le := Nat.min_le_right _ _

/-- Another day of the month. -/
def Date.withDay (d : Date) (k : ℕ) (hpos : 1 ≤ k) (hle : k ≤ daysInMonth d.year d.month) :
    Date :=
  { d with day := k, day_pos := hpos, day_le := hle }

/-! ## Times of day -/

/-- A time of day. -/
@[ext]
structure TimeOfDay where
  hour : ℕ
  minute : ℕ
  second : ℕ
  hour_lt : hour < 24
  minute_lt : minute < 60
  second_lt : second < 60
  deriving DecidableEq

/-- The second of the day. -/
def TimeOfDay.seconds (t : TimeOfDay) : ℤ := t.hour * 3600 + t.minute * 60 + t.second

/-- The time of a second of some day. -/
def timeOf (n : ℤ) : TimeOfDay where
  hour := (n % 86400 / 3600).toNat
  minute := (n % 3600 / 60).toNat
  second := (n % 60).toNat
  hour_lt := by omega
  minute_lt := by omega
  second_lt := by omega

lemma seconds_timeOf (n : ℤ) : (timeOf n).seconds = n % 86400 := by
  rw [TimeOfDay.seconds]
  dsimp only [timeOf]
  omega

lemma TimeOfDay.seconds_nonneg (t : TimeOfDay) : 0 ≤ t.seconds := by
  rw [seconds]
  omega

lemma TimeOfDay.seconds_lt (t : TimeOfDay) : t.seconds < 86400 := by
  have hhour := t.hour_lt
  have hminute := t.minute_lt
  have hsecond := t.second_lt
  rw [seconds]
  omega

lemma TimeOfDay.seconds_inj {t t' : TimeOfDay} (h : t.seconds = t'.seconds) : t = t' := by
  obtain ⟨hour, minute, second, hhour, hminute, hsecond⟩ := t
  obtain ⟨hour', minute', second', hhour', hminute', hsecond'⟩ := t'
  rw [seconds, seconds] at h
  dsimp only at h
  refine TimeOfDay.ext ?_ ?_ ?_ <;> dsimp only <;> omega

/-! ## Date and time of day -/

/-- A date and a time of day. -/
@[ext]
structure Civil where
  date : Date
  time : TimeOfDay
  deriving DecidableEq

/-- The seconds since the start of 1970. -/
def Civil.seconds (c : Civil) : ℤ := c.date.dayNumber * 86400 + c.time.seconds

/-- The date and the time of day of an instant. -/
def civilOf (n : ℤ) : Civil := ⟨dateOf (n / 86400), timeOf n⟩

lemma dayNumber_civilOf (n : ℤ) : (civilOf n).date.dayNumber = n / 86400 := dayNumber_dateOf _

lemma seconds_time_civilOf (n : ℤ) : (civilOf n).time.seconds = n % 86400 := seconds_timeOf n

lemma second_civilOf (n : ℤ) : (civilOf n).time.second = n % 60 := by
  dsimp only [civilOf, timeOf]
  omega

lemma seconds_civilOf (n : ℤ) : (civilOf n).seconds = n := by
  rw [Civil.seconds, dayNumber_civilOf, seconds_time_civilOf]
  omega

lemma civilOf_seconds (c : Civil) : civilOf c.seconds = c := by
  have hnonneg := c.time.seconds_nonneg
  have hlt := c.time.seconds_lt
  have hday : c.seconds / 86400 = c.date.dayNumber := by
    rw [Civil.seconds]
    omega
  have hrest : c.seconds % 86400 = c.time.seconds := by
    rw [Civil.seconds]
    omega
  refine Civil.ext ?_ ?_
  · dsimp only [civilOf]
    rw [hday, dateOf_dayNumber]
  · refine TimeOfDay.seconds_inj ?_
    rw [seconds_time_civilOf, hrest]

/-- **An instant** has one date and time of day, and these are of one instant. -/
theorem civilOf_eq_iff {n : ℤ} {c : Civil} : civilOf n = c ↔ n = c.seconds := by
  constructor
  · rintro rfl
    exact (seconds_civilOf n).symm
  · rintro rfl
    exact civilOf_seconds c

/-- 2000 was a leap year. -/
example : dateOf 11016 = ⟨2000, 2, 29, by decide, by decide, by decide⟩ := by decide

end Calendar
