import Mathlib.Data.Int.Order.Lemmas
import Mathlib.Order.Lattice
import Snapweb.Client.Moment

/-!
# Time zones

`common/time.js`: the zones that the settings offer, and the zone that is picked for an offset from
UTC.  The zones have their offsets as texts, and the one picked is found by comparing texts.

* `signedMinutes` — the offset that such a text shows.
* `pickTimeZoneFromOffset_eq` — the zone picked is the first one whose offset, in minutes, is the one
  given: its hours and minutes, and what its text shows.
-/

namespace Snapweb

/-- `pad`. -/
def pad (v : ℕ) : String := if v < 10 then "0" ++ toString v else toString v

/-- `formatUTCOffset`. -/
def formatUTCOffset (offsetHours offsetMinutes : ℤ) : String :=
  (if 0 ≤ offsetHours then "+" else "-") ++ pad offsetHours.natAbs ++ ":" ++ pad offsetMinutes.natAbs

/-- A time zone, with the hours and the minutes of its offset from UTC. -/
structure TimeZone where
  name : String
  value : String
  hours : ℤ
  minutes : ℤ
  deriving DecidableEq, Repr

/-- The offset of a zone, as a text. -/
def TimeZone.offset (tz : TimeZone) : String := formatUTCOffset tz.hours tz.minutes

/-- `TimeZones`. -/
def timeZones : List TimeZone :=
  [ ⟨"Chatham Islands/New Zealand", "Pacific/Chatham", 12, 45⟩,
    ⟨"Samoa and Christmas Island/Kiribati", "Pacific/Kiritimati", 14, 0⟩,
    ⟨"Pacific/Auckland", "New Zealand/Auckland", 12, 0⟩,
    ⟨"Pacific/Fiji", "Fiji", 12, 0⟩,
    ⟨"Australia/Melbourne", "Australia/Sydney, Melbourne", 10, 0⟩,
    ⟨"Australia/Brisbane", "Australia/Brisbane", 10, 0⟩,
    ⟨"Australia/Adelaide", "Australia/Adelaide, Darwin", 9, 30⟩,
    ⟨"Asia/Tokyo", "Japan/Tokyo", 9, 0⟩,
    ⟨"Asia/Pyongyang", "North Korea/Pyongyang", 8, 30⟩,
    ⟨"Australia/Perth", "Australia/Perth", 8, 0⟩,
    ⟨"Asia/Shanghai", "China/Beijing Time", 8, 0⟩,
    ⟨"Asia/Jakarta", "Indonesia/Jakarta", 7, 0⟩,
    ⟨"Indian/Cocos", "Cocos Islands", 7, 30⟩,
    ⟨"Asia/Dhaka", "Bangladesh/Dhaka", 6, 0⟩,
    ⟨"Asia/Kathmandu", "Nepal/Kathmandu", 5, 45⟩,
    ⟨"Asia/Kolkata", "India", 5, 30⟩,
    ⟨"Asia/Karachi", "Pakistan/Karachi", 5, 0⟩,
    ⟨"Asia/Kabul", "Afghanistan/Kabul", 4, 30⟩,
    ⟨"Asia/Dubai", "Dubai", 4, 0⟩,
    ⟨"Asia/Tehran", "Iran/Tehran", 3, 30⟩,
    ⟨"Europe/Moscow", "Russia/Moscow", 3, 0⟩,
    ⟨"Africa/Cairo", "Egypt/Cairo", 2, 0⟩,
    ⟨"Europe/Brussels", "Belgium/Brussels", 1, 0⟩,
    ⟨"Europe/London", "United Kingdom/London", 0, 0⟩,
    ⟨"UTC", "UTC", 0, 0⟩,
    ⟨"Atlantic/Cape_Verde", "Cabo Verde/Praia", -1, 0⟩,
    ⟨"America/St_Johns", "Canada/St. John's", -2, 30⟩,
    ⟨"America/Buenos_Aires", "Argentina/Buenos Aires", -3, 0⟩,
    ⟨"America/New_York", "America/New York", -4, 0⟩,
    ⟨"America/Chicago", "America/Chicago", -5, 0⟩,
    ⟨"America/Mexico_City", "Mexico/Mexico City", -6, 0⟩,
    ⟨"America/Los_Angeles", "America/Los Angeles", -7, 0⟩,
    ⟨"America/Anchorage", "America/Anchorage", -8, 0⟩,
    ⟨"Pacific/Marquesas", "Marquesas Islands", -9, 30⟩,
    ⟨"Pacific/Honolulu", "United States/Honolulu", -10, 0⟩,
    ⟨"US/Samoa", "American Samoa", -10, 0⟩ ]

/-- `clamp`. -/
def clamp (value min max : ℤ) : ℤ := if max < value then max else if value < min then min else value

/-- `signFunc`: `Math.sign`, or the function that stands in where there is none. -/
def signFunc (mathSign : Bool) (v : ℤ) : ℤ := if mathSign then v.sign else if v < 0 then -1 else 1

/-- The hours of an offset, with its sign. -/
def offsetHours (mathSign : Bool) (offset : ℤ) : ℤ :=
  signFunc mathSign offset * clamp (|offset| / 3600) 0 23

/-- The minutes of an offset. -/
def offsetMinutes (mathSign : Bool) (offset : ℤ) : ℤ :=
  clamp ((|offset| - |offsetHours mathSign offset| * 3600) / 60) 0 59

/-- `pickTimeZoneFromOffset`, for a whole number of seconds. -/
def pickTimeZoneFromOffset (mathSign : Bool) (offset : ℤ) : TimeZone :=
  let offsetDescr := formatUTCOffset (offsetHours mathSign offset) (offsetMinutes mathSign offset)
  match timeZones.filter fun tz => tz.offset = offsetDescr with
  | [] => timeZones[0]
  | tz :: _ => tz

/-! ## Reading an offset -/

/-- The minutes that an offset's text shows. -/
def signedMinutes (offset : String) : Option ℤ :=
  match offset.toList with
  | [sign, h, h', colon, m, m'] =>
      let minutes : ℕ := digitsValue 10 [h, h'] * 60 + digitsValue 10 [m, m']
      if colon ≠ ':' then none
      else if sign = '+' then some minutes
      else if sign = '-' then some (-minutes)
      else none
  | _ => none

/-- The text of an offset. -/
def offsetText (minutes : ℤ) : String := formatUTCOffset (minutes.tdiv 60) (minutes.tmod 60)

/-- The minutes that hours with their sign and minutes come to. -/
def joinedMinutes (hours minutes : ℤ) : ℤ :=
  if 0 ≤ hours then hours * 60 + minutes else hours * 60 - minutes

lemma toList_pad {v : ℕ} (h : v < 100) :
    (pad v).toList = [(v / 10).digitChar, (v % 10).digitChar] := by
  have hall : ∀ v < 100, (pad v).toList = [(v / 10).digitChar, (v % 10).digitChar] := by
    decide +kernel
  exact hall v h

lemma digitsValue_pad {v : ℕ} (h : v < 100) :
    digitsValue 10 [(v / 10).digitChar, (v % 10).digitChar] = v := by
  have hall : ∀ v < 100, digitsValue 10 [(v / 10).digitChar, (v % 10).digitChar] = v := by
    decide +kernel
  exact hall v h

/-- A text with two digits for each shows the hours and the minutes. -/
lemma signedMinutes_formatUTCOffset {hours minutes : ℤ} (hh : hours.natAbs < 100)
    (hm : 0 ≤ minutes) (hm' : minutes < 100) :
    signedMinutes (formatUTCOffset hours minutes) = some (joinedMinutes hours minutes) := by
  have hmabs : minutes.natAbs < 100 := by omega
  have hlist : ∀ sign : String, (sign ++ pad hours.natAbs ++ ":" ++ pad minutes.natAbs).toList
      = sign.toList ++ [(hours.natAbs / 10).digitChar, (hours.natAbs % 10).digitChar, ':',
        (minutes.natAbs / 10).digitChar, (minutes.natAbs % 10).digitChar] := by
    intro sign
    simp [toList_pad hh, toList_pad hmabs]
  have hhours := digitsValue_pad hh
  have hminutes := digitsValue_pad hmabs
  rw [formatUTCOffset, signedMinutes, joinedMinutes, hlist]
  by_cases hsign : 0 ≤ hours
  · rw [if_pos hsign, if_pos hsign]
    simp
    omega
  · rw [if_neg hsign, if_neg hsign]
    simp
    omega

/-- Hours and minutes that are the right ones for their sum are shown as it is. -/
lemma formatUTCOffset_eq {hours minutes : ℤ} (hm : 0 ≤ minutes) (hm' : minutes < 60) :
    formatUTCOffset hours minutes = offsetText (joinedMinutes hours minutes) := by
  rw [offsetText, joinedMinutes]
  by_cases hsign : 0 ≤ hours
  · rw [if_pos hsign, Int.tdiv_eq_ediv_of_nonneg (by omega), Int.tmod_eq_emod_of_nonneg (by omega)]
    have hdiv : (hours * 60 + minutes) / 60 = hours := by omega
    have hmod : (hours * 60 + minutes) % 60 = minutes := by omega
    rw [hdiv, hmod]
  · have hneg : hours * 60 - minutes = -(-hours * 60 + minutes) := by omega
    have hdiv : (-hours * 60 + minutes) / 60 = -hours := by omega
    have hmod : (-hours * 60 + minutes) % 60 = minutes := by omega
    rw [if_neg hsign, hneg, Int.neg_tdiv, Int.neg_tmod, Int.tdiv_eq_ediv_of_nonneg (by omega),
      Int.tmod_eq_emod_of_nonneg (by omega), hdiv, hmod, neg_neg, formatUTCOffset, formatUTCOffset,
      Int.natAbs_neg]

/-! ## The zone picked -/

/-- The offset of a zone, in minutes. -/
def TimeZone.minutesFromUTC (tz : TimeZone) : ℤ := joinedMinutes tz.hours tz.minutes

/-- The zones have offsets of hours and minutes, of less than 1439 minutes and, unless they are 0, of an
hour at least. -/
lemma timeZone_offset {tz : TimeZone} (h : tz ∈ timeZones) :
    (0 ≤ tz.minutes ∧ tz.minutes < 60) ∧ tz.hours.natAbs < 100 ∧
      (tz.minutesFromUTC = 0 ∨ 60 ≤ tz.minutesFromUTC.natAbs) ∧ tz.minutesFromUTC.natAbs < 1439 := by
  have hall : ∀ tz ∈ timeZones, (0 ≤ tz.minutes ∧ tz.minutes < 60) ∧ tz.hours.natAbs < 100 ∧
      (tz.minutesFromUTC = 0 ∨ 60 ≤ tz.minutesFromUTC.natAbs) ∧
        tz.minutesFromUTC.natAbs < 1439 := by
    decide +kernel
  exact hall tz h

/-- The text of a zone shows its offset. -/
lemma signedMinutes_offset {tz : TimeZone} (h : tz ∈ timeZones) :
    signedMinutes tz.offset = some tz.minutesFromUTC := by
  obtain ⟨⟨hlow, hhigh⟩, hhours, -⟩ := timeZone_offset h
  exact signedMinutes_formatUTCOffset hhours hlow (by omega)

lemma clamp_cases {value : ℤ} (h : 0 ≤ value) (max : ℤ) :
    (clamp value 0 max = value ∧ value ≤ max) ∨ (clamp value 0 max = max ∧ max < value) := by
  rw [clamp, if_neg (by omega : ¬ value < 0)]
  split_ifs <;> omega

/-- The hours and minutes of an offset without its sign: those of a day, or 23:59. -/
lemma clamped_parts {seconds : ℤ} (h : 0 ≤ seconds) :
    let hours := clamp (seconds / 3600) 0 23
    let minutes := clamp ((seconds - hours * 3600) / 60) 0 59
    0 ≤ hours ∧ hours ≤ 23 ∧ 0 ≤ minutes ∧ minutes ≤ 59 ∧
      (hours * 60 + minutes = seconds / 60 ∨
        (hours * 60 + minutes = 1439 ∧ 1440 ≤ seconds / 60)) := by
  intro hours minutes
  have hhours := clamp_cases (by omega : 0 ≤ seconds / 3600) 23
  have hrest : 0 ≤ seconds - hours * 3600 := by omega
  have hminutes := clamp_cases (by omega : 0 ≤ (seconds - hours * 3600) / 60) 59
  omega

lemma signFunc_of_neg {v : ℤ} (h : v < 0) (mathSign : Bool) : signFunc mathSign v = -1 := by
  rw [signFunc, Int.sign_eq_neg_one_of_neg h, if_pos h, ite_self]

lemma signFunc_of_pos {v : ℤ} (h : 0 < v) (mathSign : Bool) : signFunc mathSign v = 1 := by
  rw [signFunc, Int.sign_eq_one_of_pos h, if_neg (by omega : ¬ v < 0), ite_self]

lemma abs_offsetHours (mathSign : Bool) (offset : ℤ) :
    |offsetHours mathSign offset| = clamp (|offset| / 3600) 0 23 := by
  have hclamp := (clamped_parts (abs_nonneg offset)).1
  rw [offsetHours, abs_mul, abs_of_nonneg hclamp]
  rcases lt_trichotomy offset 0 with hneg | rfl | hpos
  · rw [signFunc_of_neg hneg, abs_neg, abs_one, one_mul]
  · simp [clamp]
  · rw [signFunc_of_pos hpos, abs_one, one_mul]

/-- The hours and minutes computed come to the offset in whole minutes, unless it is a day or more,
or less than an hour west. -/
lemma joinedMinutes_cases (mathSign : Bool) (offset : ℤ) :
    let shown := joinedMinutes (offsetHours mathSign offset) (offsetMinutes mathSign offset)
    shown = offset.tdiv 60 ∨
      (1439 ≤ shown.natAbs ∧ 1439 ≤ (offset.tdiv 60).natAbs) ∨
      ((shown ≠ 0 ∧ shown.natAbs < 60) ∧ offset.tdiv 60 ≠ 0 ∧ (offset.tdiv 60).natAbs < 60) := by
  have hparts := clamped_parts (abs_nonneg offset)
  rw [offsetMinutes, abs_offsetHours]
  rcases lt_trichotomy offset 0 with hneg | rfl | hpos
  · have htdiv : offset.tdiv 60 = -(-offset / 60) := by
      rw [← Int.tdiv_eq_ediv_of_nonneg (by omega), Int.neg_tdiv, neg_neg]
    rw [abs_of_neg hneg] at hparts
    rw [htdiv, offsetHours, signFunc_of_neg hneg, abs_of_neg hneg, joinedMinutes]
    split_ifs <;> omega
  · cases mathSign with
    | true => decide
    | false => decide
  · rw [abs_of_pos hpos] at hparts
    rw [Int.tdiv_eq_ediv_of_nonneg hpos.le, offsetHours, signFunc_of_pos hpos, abs_of_pos hpos,
      joinedMinutes]
    split_ifs <;> omega

lemma offsetHours_lt (mathSign : Bool) (offset : ℤ) : (offsetHours mathSign offset).natAbs < 100 := by
  have habs := abs_offsetHours mathSign offset
  have hparts := clamped_parts (abs_nonneg offset)
  rw [Int.abs_eq_natAbs] at habs
  omega

lemma offsetMinutes_mem (mathSign : Bool) (offset : ℤ) :
    0 ≤ offsetMinutes mathSign offset ∧ offsetMinutes mathSign offset < 60 := by
  have hparts := clamped_parts (abs_nonneg offset)
  rw [offsetMinutes, abs_offsetHours]
  omega

/-- A zone has the text that is looked for exactly if it has the offset. -/
lemma offset_eq_iff {tz : TimeZone} (h : tz ∈ timeZones) (mathSign : Bool) (offset : ℤ) :
    tz.offset = formatUTCOffset (offsetHours mathSign offset) (offsetMinutes mathSign offset) ↔
      tz.minutesFromUTC = offset.tdiv 60 := by
  obtain ⟨hlow, hhigh⟩ := offsetMinutes_mem mathSign offset
  obtain ⟨⟨hlow', hhigh'⟩, -, hhour, hday⟩ := timeZone_offset h
  have hread := signedMinutes_formatUTCOffset (offsetHours_lt mathSign offset) hlow (by omega)
  have hsame : tz.offset = formatUTCOffset (offsetHours mathSign offset)
      (offsetMinutes mathSign offset) ↔ tz.minutesFromUTC
        = joinedMinutes (offsetHours mathSign offset) (offsetMinutes mathSign offset) := by
    constructor
    · intro heq
      rw [← heq, signedMinutes_offset h] at hread
      exact Option.some.inj hread
    · intro heq
      rw [formatUTCOffset_eq hlow hhigh, ← heq, TimeZone.offset, formatUTCOffset_eq hlow' hhigh']
      rfl
  rw [hsame]
  rcases joinedMinutes_cases mathSign offset with heq | ⟨hshown, hgiven⟩ | ⟨hshown, hgiven⟩
  · rw [heq]
  · -- no zone is that far from UTC
    constructor <;> intro heq <;> omega
  · -- no zone is less than an hour from UTC and not at it
    constructor <;> intro heq <;> omega

/-- **The zone picked.**  For every offset in seconds, the zone picked is the first one with the
offset that is given, in minutes and truncated toward zero; the first of all where there is none.  The
texts of the zones show these offsets. -/
theorem pickTimeZoneFromOffset_eq (mathSign : Bool) (offset : ℤ) :
    pickTimeZoneFromOffset mathSign offset =
        (timeZones.find? fun tz => tz.minutesFromUTC = offset.tdiv 60).getD timeZones[0] ∧
      ∀ tz ∈ timeZones, signedMinutes tz.offset = some tz.minutesFromUTC := by
  refine ⟨?_, fun tz => signedMinutes_offset⟩
  have hfilter : (timeZones.filter fun tz => tz.offset =
      formatUTCOffset (offsetHours mathSign offset) (offsetMinutes mathSign offset))
      = timeZones.filter fun tz => tz.minutesFromUTC = offset.tdiv 60 :=
    List.filter_congr fun tz htz => decide_eq_decide.mpr (offset_eq_iff htz mathSign offset)
  rw [pickTimeZoneFromOffset, hfilter, ← List.head?_filter]
  generalize List.filter _ timeZones = candidateTZ
  cases candidateTZ with
  | nil => rfl
  | cons tz more => rfl

/-- The zone picked is one of the zones. -/
lemma pickTimeZoneFromOffset_mem (mathSign : Bool) (offset : ℤ) :
    pickTimeZoneFromOffset mathSign offset ∈ timeZones := by
  rw [pickTimeZoneFromOffset]
  rcases hzones : timeZones.filter fun tz => tz.offset =
      formatUTCOffset (offsetHours mathSign offset) (offsetMinutes mathSign offset) with
    _ | ⟨tz, rest⟩
  · simp only [hzones]
    exact List.getElem_mem _
  · simp only [hzones]
    exact List.mem_of_mem_filter (hzones ▸ List.mem_cons_self)

example : (pickTimeZoneFromOffset true (-14400)).name = "America/New_York" := by decide +kernel

end Snapweb
