import Mathlib.Data.List.TakeWhile
import Mathlib.Data.Rat.Defs
import Snapweb.Core.Calendar

/-!
# Moments

What the client relies on of `moment`: an instant, shown with date and time of day at an offset from
UTC, where the setters change the one that is shown.  Instants are in milliseconds, and integers
without bound; a `Date` ends after 8.64e15 of them.

* `parseInt_digits` — a text of digits is read as the number that it shows.
* `momentLib_documented` — a library that does what is documented.
-/

namespace Snapweb

open Calendar

/-! ## Numbers -/

/-- A number, as it is handed to a function: it may be missing, or none at all. -/
inductive JSArg
  | undefined
  | nan
  | number (q : ℚ)
  deriving DecidableEq

namespace JSArg

/-- An attribute that may be missing. -/
def ofOption : Option ℤ → JSArg
  | none => undefined
  | some n => number n

/-- `v / k`, for a number that is not 0. -/
def div (k : ℚ) : JSArg → JSArg
  | number q => number (q / k)
  | nan => nan
  | undefined => nan

/-- `v - k`. -/
def sub (k : ℚ) : JSArg → JSArg
  | number q => number (q - k)
  | nan => nan
  | undefined => nan

/-- An element of an array. -/
def item (vs : List JSArg) (i : ℕ) : JSArg := vs.getD i undefined

end JSArg

/-- White space and line ends. -/
def isStrWhiteSpace (c : Char) : Bool :=
  let n := c.toNat
  (9 ≤ n && n ≤ 13) || n == 0x20 || n == 0xA0 || n == 0x1680 || (0x2000 ≤ n && n ≤ 0x200A) ||
    n == 0x2028 || n == 0x2029 || n == 0x202F || n == 0x205F || n == 0x3000 || n == 0xFEFF

/-- The character is a digit, in base 10 or 16. -/
def isRadixDigit (radix : ℕ) (c : Char) : Bool :=
  c.isDigit || (radix == 16 && (('a' ≤ c && c ≤ 'f') || ('A' ≤ c && c ≤ 'F')))

/-- The value of a digit. -/
def digitValue (c : Char) : ℕ := if c.isDigit then c.toNat - 48 else c.toLower.toNat - 87

/-- The number that digits show. -/
def digitsValue (radix : ℕ) (ds : List Char) : ℕ := ds.foldl (fun n c => n * radix + digitValue c) 0

/-- The sign of a text, and what follows. -/
def splitSign : List Char → Bool × List Char
  | '-' :: cs => (true, cs)
  | '+' :: cs => (false, cs)
  | cs => (false, cs)

/-- The base that a text is in, and what follows. -/
def splitRadix : List Char → ℕ × List Char
  | '0' :: 'x' :: cs => (16, cs)
  | '0' :: 'X' :: cs => (16, cs)
  | cs => (10, cs)

/-- `parseInt`. -/
def parseInt (text : List Char) : JSArg :=
  let sign := splitSign (text.dropWhile isStrWhiteSpace)
  let radix := splitRadix sign.2
  match radix.2.takeWhile (isRadixDigit radix.1) with
  | [] => .nan
  | d :: ds =>
      .number (if sign.1 then -(digitsValue radix.1 (d :: ds) : ℚ) else digitsValue radix.1 (d :: ds))

/-- Decimal digits. -/
abbrev DigitText := { ds : List Char // ds ≠ [] ∧ ds.all Char.isDigit = true }

/-- The number that they show. -/
def DigitText.value (ds : DigitText) : ℕ := digitsValue 10 ds.val

lemma DigitText.isDigit (ds : DigitText) {c : Char} (hc : c ∈ ds.val) : c.isDigit = true :=
  List.all_eq_true.mp ds.property.2 c hc

lemma toNat_of_isDigit {c : Char} (hc : c.isDigit = true) : 48 ≤ c.toNat ∧ c.toNat ≤ 57 := by
  rw [Char.isDigit, Bool.and_eq_true, decide_eq_true_eq, decide_eq_true_eq] at hc
  exact hc

lemma ne_of_isDigit {c e : Char} (hc : c.isDigit = true) (he : e.isDigit = false) : c ≠ e := by
  rintro rfl
  rw [hc] at he
  cases he

lemma isStrWhiteSpace_of_isDigit {c : Char} (hc : c.isDigit = true) : isStrWhiteSpace c = false := by
  obtain ⟨hle, hge⟩ := toNat_of_isDigit hc
  simp only [isStrWhiteSpace, Bool.or_eq_false_iff, Bool.and_eq_false_iff, decide_eq_false_iff_not,
    beq_eq_false_iff_ne]
  omega

lemma splitSign_of_isDigit {c : Char} (cs : List Char) (hc : c.isDigit = true) :
    splitSign (c :: cs) = (false, c :: cs) := by
  rw [splitSign.eq_def]
  split
  · next heq => exact absurd (List.cons.inj heq).1 (ne_of_isDigit hc rfl)
  · next heq => exact absurd (List.cons.inj heq).1 (ne_of_isDigit hc rfl)
  · rfl

lemma splitRadix_of_all {cs : List Char} (hcs : ∀ c ∈ cs, c.isDigit = true) :
    splitRadix cs = (10, cs) := by
  rw [splitRadix.eq_def]
  split
  · exact absurd (hcs 'x' (by simp)) (by decide)
  · exact absurd (hcs 'X' (by simp)) (by decide)
  · rfl

/-- A text of digits is read as the number that it shows. -/
lemma parseInt_digits (ds : DigitText) : parseInt ds.val = .number ds.value := by
  have hdigit : ∀ c ∈ ds.val, c.isDigit = true := fun c hc => ds.isDigit hc
  rw [DigitText.value]
  obtain ⟨c, cs, hds⟩ := List.exists_cons_of_ne_nil ds.property.1
  rw [hds] at hdigit ⊢
  have hc := hdigit c List.mem_cons_self
  have htake : (c :: cs).takeWhile (isRadixDigit 10) = c :: cs := by
    rw [List.takeWhile_eq_self_iff]
    intro e he
    rw [isRadixDigit, hdigit e he, Bool.true_or]
  rw [parseInt, List.dropWhile_cons_of_neg (by simp [isStrWhiteSpace_of_isDigit hc]),
    splitSign_of_isDigit cs hc]
  dsimp only
  rw [splitRadix_of_all hdigit]
  dsimp only
  rw [htake]
  rfl

/-! ## The library -/

/-- What the client calls of `moment`, and what it shows: a setter is given the moment that it
changes. -/
structure MomentLib (M : Type*) where
  moment : JSArg → M
  utcOffset : M → JSArg → M
  year : M → JSArg → M
  month : M → JSArg → M
  date : M → JSArg → M
  hour : M → JSArg → M
  minute : M → JSArg → M
  second : M → JSArg → M
  unix : M → ℤ
  valueOf : M → ℤ
  /-- The offset from UTC, in seconds. -/
  offset : M → ℤ
  /-- What the getters return. -/
  shown : M → Civil

/-- The offset that a number stands for: minutes, or hours if it is less than 16 (either way). -/
def offsetOf (k : ℤ) : ℤ := if -16 < k ∧ k < 16 then 3600 * k else 60 * k

/-- A setter sets what is shown, at the same offset. -/
structure MomentLib.Sets {M : Type*} (lib : MomentLib M) (m m' : M) (c : Civil) : Prop where
  shown : lib.shown m' = c
  offset : lib.offset m' = lib.offset m

/-- What is documented, with the time of the clock and the offset that comes of an argument that is
not a number. -/
structure MomentLib.Documented {M : Type*} (lib : MomentLib M) (now nanOffset : ℤ) : Prop where
  /-- A number is one of milliseconds. -/
  moment_number : ∀ n : ℤ, lib.valueOf (lib.moment (.number n)) = n
  moment_undefined : lib.valueOf (lib.moment .undefined) = now
  /-- Seconds are rounded down. -/
  unix_eq : ∀ m, lib.unix m = lib.valueOf m / 1000
  shown_eq : ∀ m, lib.shown m = civilOf (lib.valueOf m / 1000 + lib.offset m)
  /-- The instant stays. -/
  utcOffset_valueOf : ∀ m v, lib.valueOf (lib.utcOffset m v) = lib.valueOf m
  utcOffset_number : ∀ m (k : ℤ), lib.offset (lib.utcOffset m (.number k)) = offsetOf k
  utcOffset_nan : ∀ m, lib.offset (lib.utcOffset m .nan) = nanOffset
  year_sets : ∀ m (y : ℤ), lib.Sets m (lib.year m (.number y))
    ⟨(lib.shown m).date.withYear y, (lib.shown m).time⟩
  /-- Months are counted from 0 on. -/
  month_sets : ∀ m (k : ℕ) (hk : k + 1 ≤ 12), lib.Sets m (lib.month m (.number k))
    ⟨(lib.shown m).date.withMonth (k + 1) (Nat.le_add_left 1 k) hk, (lib.shown m).time⟩
  date_sets : ∀ m (k : ℕ) (hpos : 1 ≤ k)
    (hle : k ≤ daysInMonth (lib.shown m).date.year (lib.shown m).date.month),
    lib.Sets m (lib.date m (.number k))
      ⟨(lib.shown m).date.withDay k hpos hle, (lib.shown m).time⟩
  hour_sets : ∀ m (k : ℕ) (hk : k < 24), lib.Sets m (lib.hour m (.number k))
    ⟨(lib.shown m).date, { (lib.shown m).time with hour := k, hour_lt := hk }⟩
  minute_sets : ∀ m (k : ℕ) (hk : k < 60), lib.Sets m (lib.minute m (.number k))
    ⟨(lib.shown m).date, { (lib.shown m).time with minute := k, minute_lt := hk }⟩
  /-- Without a value it is the getter. -/
  second_undefined : ∀ m, lib.second m .undefined = m

/-! ## A library -/

/-- An instant in milliseconds, and the offset that it is shown at. -/
structure Instant where
  value : ℤ
  offset : ℤ

namespace Instant

/-- What an instant shows. -/
def shown (i : Instant) : Civil := civilOf (i.value / 1000 + i.offset)

/-- The instant that shows something else, at the same offset. -/
def setShown (i : Instant) (c : Civil) : Instant :=
  { i with value := i.value + 1000 * (c.seconds - i.shown.seconds) }

@[simp] lemma shown_setShown (i : Instant) (c : Civil) : (i.setShown c).shown = c := by
  have hold : i.shown.seconds = i.value / 1000 + i.offset := seconds_civilOf _
  rw [shown, civilOf_eq_iff, setShown, hold]
  dsimp only
  omega

/-- A setter of a part that is a natural number, if it is in its range. -/
def setPart (i : Instant) (part : ℕ → Option Civil) : JSArg → Instant
  | .number q =>
      match part q.floor.toNat with
      | some c => i.setShown c
      | none => i
  | .nan => i
  | .undefined => i

/-- Another month, counted from 0 on. -/
def withMonth (i : Instant) (k : ℕ) : Option Civil :=
  if hk : k + 1 ≤ 12 then
    some ⟨i.shown.date.withMonth (k + 1) (Nat.le_add_left 1 k) hk, i.shown.time⟩
  else none

/-- Another day of the month. -/
def withDay (i : Instant) (k : ℕ) : Option Civil :=
  if hk : 1 ≤ k ∧ k ≤ daysInMonth i.shown.date.year i.shown.date.month then
    some ⟨i.shown.date.withDay k hk.1 hk.2, i.shown.time⟩
  else none

/-- Another hour. -/
def withHour (i : Instant) (k : ℕ) : Option Civil :=
  if hk : k < 24 then some ⟨i.shown.date, { i.shown.time with hour := k, hour_lt := hk }⟩ else none

/-- Another minute. -/
def withMinute (i : Instant) (k : ℕ) : Option Civil :=
  if hk : k < 60 then some ⟨i.shown.date, { i.shown.time with minute := k, minute_lt := hk }⟩
  else none

/-- Another second. -/
def withSecond (i : Instant) (k : ℕ) : Option Civil :=
  if hk : k < 60 then some ⟨i.shown.date, { i.shown.time with second := k, second_lt := hk }⟩
  else none

end Instant

/-- Moments as instants, where `NaN` stands for UTC. -/
def momentLib (now : ℤ) : MomentLib Instant where
  moment
    | .number q => ⟨q.floor, 0⟩
    | .undefined => ⟨now, 0⟩
    | .nan => ⟨0, 0⟩
  utcOffset i
    | .number q => { i with offset := offsetOf q.floor }
    | .nan => { i with offset := 0 }
    | .undefined => i
  year i
    | .number q => i.setShown ⟨i.shown.date.withYear q.floor, i.shown.time⟩
    | .nan => i
    | .undefined => i
  month i := i.setPart i.withMonth
  date i := i.setPart i.withDay
  hour i := i.setPart i.withHour
  minute i := i.setPart i.withMinute
  second i := i.setPart i.withSecond
  unix i := i.value / 1000
  valueOf i := i.value
  offset i := i.offset
  shown i := i.shown

lemma floor_natCast (k : ℕ) : (k : ℚ).floor.toNat = k := by
  have hfloor : (k : ℚ).floor = k := Rat.floor_intCast k
  rw [hfloor, Int.toNat_natCast]

lemma Instant.setPart_natCast (i : Instant) (part : ℕ → Option Civil) {k : ℕ} {c : Civil}
    (h : part k = some c) : i.setPart part (.number k) = i.setShown c := by
  rw [setPart, floor_natCast, h]

lemma Instant.sets (now : ℤ) {i i' : Instant} {c : Civil} (h : i' = i.setShown c) :
    (momentLib now).Sets i i' c := by
  rw [h]
  exact ⟨i.shown_setShown c, rfl⟩

/-- What is documented holds of it. -/
lemma momentLib_documented (now : ℤ) : (momentLib now).Documented now 0 where
  moment_number n := Rat.floor_intCast n
  moment_undefined := rfl
  unix_eq _ := rfl
  shown_eq _ := rfl
  utcOffset_valueOf i v := by cases v <;> rfl
  utcOffset_number i k := congrArg offsetOf (Rat.floor_intCast k)
  utcOffset_nan _ := rfl
  year_sets i y := Instant.sets now (by rw [← Rat.floor_intCast y]; rfl)
  month_sets i _ hk := Instant.sets now (i.setPart_natCast i.withMonth (dif_pos hk))
  date_sets i _ hpos hle := Instant.sets now (i.setPart_natCast i.withDay (dif_pos ⟨hpos, hle⟩))
  hour_sets i _ hk := Instant.sets now (i.setPart_natCast i.withHour (dif_pos hk))
  minute_sets i _ hk := Instant.sets now (i.setPart_natCast i.withMinute (dif_pos hk))
  second_undefined _ := rfl

end Snapweb
