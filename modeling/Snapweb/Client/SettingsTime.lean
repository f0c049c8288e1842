import Mathlib.Data.Rat.Lemmas
import Snapweb.Client.Moment
import Snapweb.Client.SnapModel
import Snapweb.Core.JSON

/-!
# Picking a date or a time

`views/settings-time.js`: the handlers for a date and for a time of day that the user picks.  Both
make a moment of the time that the server has sent, in seconds, change it, and save the seconds of
the outcome.

They hand the seconds to `moment`, which takes them for milliseconds; the second that is picked is
looked for one place too far.

* `dateChanged_saves`, `timeChanged_saves` — what is saved.
* `timePicked_iff` — when it is what was picked.
* `timePicked_is_lost` — a date and a time of day, picked at an offset of one hour.
-/

namespace Snapweb

open Calendar

/-- `timeInfoResponse`. -/
structure TimeInfoResponse where
  dateTime : ℤ
  timezone : String
  offset : ℤ
  ntp : Bool
  ntpServer : String

/-- The attributes of the model after a fetch. -/
structure TimeInfo where
  dateTime : Option ℤ
  timezone : Option String
  offset : Option ℤ
  ntp : Option Bool
  ntpServer : Option String

/-- What the server sends: an empty member is left out. -/
def TimeInfoResponse.encode (info : TimeInfoResponse) : TimeInfo where
  dateTime := omitEmpty 0 info.dateTime
  timezone := omitEmpty "" info.timezone
  offset := omitEmpty 0 info.offset
  ntp := omitEmpty false info.ntp
  ntpServer := omitEmpty "" info.ntpServer

section Handlers

variable {M : Type*} (lib : MomentLib M) (model : TimeInfo)

/-- The moment that both handlers start with. -/
def pickedMoment : M :=
  lib.utcOffset (lib.moment (.ofOption model.dateTime)) (.div 60 (.ofOption model.offset))

/-- `dateChanged`: the attributes that are saved. -/
def dateChanged (value : String) : List (String × JSON ℤ) :=
  let dateTime := pickedMoment lib model
  let newDate := (value.toList.splitOn '-').map parseInt
  let dateTime := lib.year dateTime (.item newDate 0)
  let dateTime := lib.month dateTime (.sub 1 (.item newDate 1))
  let dateTime := lib.date dateTime (.item newDate 2)
  [("dateTime", .number (lib.unix dateTime))]

/-- `timeChanged`: the attributes that are saved. -/
def timeChanged (value : String) : List (String × JSON ℤ) :=
  let dateTime := pickedMoment lib model
  let newTime := (value.toList.splitOn ':').map parseInt
  let dateTime := lib.hour dateTime (.item newTime 0)
  let dateTime := lib.minute dateTime (.item newTime 1)
  let dateTime := lib.second dateTime (.item newTime 3)
  [("dateTime", .number (lib.unix dateTime))]

end Handlers

/-! ## What is picked -/

/-- The value of a date field. -/
structure PickedDate where
  year : DigitText
  month : DigitText
  day : DigitText
  month_pos : 1 ≤ month.value
  day_pos : 1 ≤ day.value
  day_le : day.value ≤ daysInMonth year.value month.value

/-- Its text. -/
def PickedDate.value (p : PickedDate) : String :=
  String.ofList (p.year.val ++ '-' :: (p.month.val ++ '-' :: p.day.val))

/-- The date. -/
def PickedDate.date (p : PickedDate) : Date :=
  ⟨p.year.value, p.month.value, p.day.value, p.month_pos, p.day_pos, p.day_le⟩

/-- The value of a time field, with or without seconds. -/
structure PickedTime where
  hour : DigitText
  minute : DigitText
  second : Option DigitText
  hour_lt : hour.value < 24
  minute_lt : minute.value < 60
  second_lt : ∀ s, second = some s → s.value < 60

/-- The text of the seconds. -/
def secondsText : Option DigitText → List Char
  | none => []
  | some s => ':' :: s.val

/-- Its text. -/
def PickedTime.value (p : PickedTime) : String :=
  String.ofList (p.hour.val ++ ':' :: (p.minute.val ++ secondsText p.second))

/-- The second, 0 if there is none. -/
def secondOf : Option DigitText → ℕ
  | none => 0
  | some s => s.value

/-- The time of day. -/
def PickedTime.time (p : PickedTime) : TimeOfDay where
  hour := p.hour.value
  minute := p.minute.value
  second := secondOf p.second
  hour_lt := p.hour_lt
  minute_lt := p.minute_lt
  second_lt := by
    rcases hsecond : p.second with _ | s
    · exact Nat.succ_pos 59
    · exact p.second_lt s hsecond

lemma notMem_digits (ds : DigitText) {c : Char} (hc : c.isDigit = false) : c ∉ ds.val := fun hmem =>
  ne_of_isDigit (ds.isDigit hmem) hc rfl

lemma splitOn_digits (ds : DigitText) {c : Char} (hc : c.isDigit = false) (cs : List Char) :
    (ds.val ++ c :: cs).splitOn c = ds.val :: cs.splitOn c :=
  List.splitOn_append_cons_self_of_not_mem (notMem_digits ds hc) cs

lemma splitOn_only_digits (ds : DigitText) {c : Char} (hc : c.isDigit = false) :
    ds.val.splitOn c = [ds.val] :=
  List.splitOn_eq_singleton (notMem_digits ds hc)

/-- The numbers of a date. -/
lemma parsed_date (p : PickedDate) : (p.value.toList.splitOn '-').map parseInt
    = [.number p.year.value, .number p.month.value, .number p.day.value] := by
  rw [PickedDate.value, String.toList_ofList, splitOn_digits p.year rfl, splitOn_digits p.month rfl,
    splitOn_only_digits p.day rfl, List.map_cons, List.map_cons, List.map_cons, List.map_nil,
    parseInt_digits, parseInt_digits, parseInt_digits]

/-- The numbers of a time of day: there are three at most. -/
lemma parsed_time (p : PickedTime) : (p.value.toList.splitOn ':').map parseInt
    = .number p.hour.value :: .number p.minute.value
      :: (p.second.map fun s => JSArg.number s.value).toList := by
  rw [PickedTime.value, String.toList_ofList, splitOn_digits p.hour rfl, List.map_cons,
    parseInt_digits]
  cases p.second with
  | none =>
      rw [secondsText, List.append_nil, splitOn_only_digits p.minute rfl, List.map_cons,
        List.map_nil, parseInt_digits]
      rfl
  | some s =>
      rw [secondsText, splitOn_digits p.minute rfl, splitOn_only_digits s rfl, List.map_cons,
        List.map_cons, List.map_nil, parseInt_digits, parseInt_digits]
      rfl

/-! ## What is saved -/

/-- The instant that the record is taken to be at, in seconds: the time of the clock if the record
has none. -/
def readSeconds (now dateTime : ℤ) : ℤ := (if dateTime = 0 then now else dateTime) / 1000

/-- The offset that it is taken to have. -/
def readOffset (nanOffset offset : ℤ) : ℤ :=
  if offset = 0 then nanOffset else offsetOf (offset / 60)

/-- What is shown of the record, at the offset that it is taken to have. -/
def readCivil (now nanOffset : ℤ) (info : TimeInfoResponse) : Civil :=
  civilOf (readSeconds now info.dateTime + readOffset nanOffset info.offset)

variable {M : Type*} {lib : MomentLib M} {now nanOffset : ℤ}

/-- The moment that both handlers start with. -/
lemma pickedMoment_spec (hlib : lib.Documented now nanOffset) {info : TimeInfoResponse}
    (hwhole : 60 ∣ info.offset) :
    lib.shown (pickedMoment lib info.encode) = readCivil now nanOffset info ∧
      lib.offset (pickedMoment lib info.encode) = readOffset nanOffset info.offset := by
  have hvalue : lib.valueOf (pickedMoment lib info.encode) / 1000 = readSeconds now info.dateTime := by
    rw [pickedMoment, hlib.utcOffset_valueOf, readSeconds]
    by_cases hzero : info.dateTime = 0
    · have hmissing : info.encode.dateTime = none := if_pos hzero
      rw [hmissing, if_pos hzero, JSArg.ofOption, hlib.moment_undefined]
    · have hpresent : info.encode.dateTime = some info.dateTime := if_neg hzero
      rw [hpresent, if_neg hzero, JSArg.ofOption, hlib.moment_number]
  have hoffset : lib.offset (pickedMoment lib info.encode) = readOffset nanOffset info.offset := by
    rw [pickedMoment, readOffset]
    by_cases hzero : info.offset = 0
    · have hmissing : info.encode.offset = none := if_pos hzero
      rw [hmissing, if_pos hzero]
      exact hlib.utcOffset_nan _
    · have hpresent : info.encode.offset = some info.offset := if_neg hzero
      obtain ⟨k, hk⟩ := hwhole
      have hminutes : JSArg.div 60 (.ofOption (some info.offset)) = .number (k : ℤ) := by
        rw [JSArg.ofOption, JSArg.div, hk, Int.cast_mul]
        exact congrArg JSArg.number (mul_div_cancel_left₀ (k : ℚ) (by decide))
      rw [hpresent, if_neg hzero, hminutes, hlib.utcOffset_number, hk,
        Int.mul_ediv_cancel_left k (by decide)]
  refine ⟨?_, hoffset⟩
  rw [hlib.shown_eq, hvalue, hoffset, readCivil]

/-- The seconds of a moment, from what it shows. -/
lemma unix_eq_seconds (hlib : lib.Documented now nanOffset) (m : M) :
    lib.unix m = (lib.shown m).seconds - lib.offset m := by
  have hseconds := civilOf_eq_iff.mp (hlib.shown_eq m).symm
  rw [hlib.unix_eq]
  omega

/-- The moment with the picked date. -/
def withDate (lib : MomentLib M) (m : M) (p : PickedDate) : M :=
  lib.date (lib.month (lib.year m (.number p.year.value)) (.sub 1 (.number p.month.value)))
    (.number p.day.value)

/-- The moment with the picked hour and minute. -/
def withTime (lib : MomentLib M) (m : M) (p : PickedTime) : M :=
  lib.minute (lib.hour m (.number p.hour.value)) (.number p.minute.value)

/-- The day, which is set last, is in the picked month of the picked year. -/
lemma withDate_sets (hlib : lib.Documented now nanOffset) (m : M) (p : PickedDate) :
    lib.Sets m (withDate lib m p) ⟨p.date, (lib.shown m).time⟩ := by
  obtain ⟨k, hk⟩ := Nat.exists_eq_add_of_le' p.month_pos
  have hmonth : JSArg.sub 1 (.number p.month.value) = .number k := by
    rw [JSArg.sub, hk, Nat.cast_add, Nat.cast_one, add_sub_cancel_right]
  have hyearset := hlib.year_sets m p.year.value
  rw [Int.cast_natCast] at hyearset
  have hle : p.month.value ≤ 12 := p.date.month_le
  have hmonthset := hlib.month_sets (lib.year m (.number p.year.value)) k (hk ▸ hle)
  rw [withDate, hmonth]
  generalize lib.year m (.number p.year.value) = m₁ at hyearset hmonthset ⊢
  generalize lib.month m₁ (.number k) = m₂ at hmonthset ⊢
  have hyear : (lib.shown m₂).date.year = p.year.value := by
    rw [hmonthset.shown]
    exact congrArg (·.date.year) hyearset.shown
  have hmonth : (lib.shown m₂).date.month = p.month.value := by
    rw [hmonthset.shown]
    exact hk.symm
  have htime : (lib.shown m₂).time = (lib.shown m).time := by
    rw [hmonthset.shown]
    exact congrArg (·.time) hyearset.shown
  have hdayset := hlib.date_sets m₂ p.day.value p.day_pos (by rw [hyear, hmonth]; exact p.day_le)
  refine ⟨hdayset.shown.trans (Civil.ext (Date.ext hyear hmonth rfl) htime), ?_⟩
  rw [hdayset.offset, hmonthset.offset, hyearset.offset]

/-- **What a date saves**: the picked date, with the time of day that is read. -/
lemma dateChanged_saves (hlib : lib.Documented now nanOffset) {info : TimeInfoResponse}
    (hwhole : 60 ∣ info.offset) (p : PickedDate) :
    dateChanged lib info.encode p.value = [("dateTime",
      .number ((Civil.mk p.date (readCivil now nanOffset info).time).seconds
        - readOffset nanOffset info.offset))] := by
  obtain ⟨hshown, hoffset⟩ := pickedMoment_spec hlib hwhole
  have hsets := withDate_sets hlib (pickedMoment lib info.encode) p
  have hhandler : dateChanged lib info.encode p.value
      = [("dateTime", .number (lib.unix (withDate lib (pickedMoment lib info.encode) p)))] := by
    rw [dateChanged, parsed_date]
    rfl
  rw [hhandler, unix_eq_seconds hlib, hsets.shown, hsets.offset, hshown, hoffset]

/-- The seconds stay as they are. -/
lemma withTime_sets (hlib : lib.Documented now nanOffset) (m : M) (p : PickedTime) :
    lib.Sets m (withTime lib m p) ⟨(lib.shown m).date,
      { p.time with
        second := (lib.shown m).time.second, second_lt := (lib.shown m).time.second_lt }⟩ := by
  have hhour := hlib.hour_sets m p.hour.value p.hour_lt
  have hminute := hlib.minute_sets (lib.hour m (.number p.hour.value)) p.minute.value p.minute_lt
  rw [withTime]
  generalize lib.hour m (.number p.hour.value) = m₁ at hhour hminute ⊢
  have hdate : (lib.shown m₁).date = (lib.shown m).date := congrArg (·.date) hhour.shown
  have hhour' : (lib.shown m₁).time.hour = p.hour.value := congrArg (·.time.hour) hhour.shown
  have hsecond : (lib.shown m₁).time.second = (lib.shown m).time.second :=
    congrArg (·.time.second) hhour.shown
  refine ⟨hminute.shown.trans (Civil.ext hdate (TimeOfDay.ext hhour' rfl hsecond)), ?_⟩
  rw [hminute.offset, hhour.offset]

/-- **What a time of day saves**: the picked hour and minute, with the date and the second that are
read. -/
lemma timeChanged_saves (hlib : lib.Documented now nanOffset) {info : TimeInfoResponse}
    (hwhole : 60 ∣ info.offset) (p : PickedTime) :
    timeChanged lib info.encode p.value = [("dateTime",
      .number ((Civil.mk (readCivil now nanOffset info).date
          { p.time with
            second := (readCivil now nanOffset info).time.second
            second_lt := (readCivil now nanOffset info).time.second_lt }).seconds
        - readOffset nanOffset info.offset))] := by
  obtain ⟨hshown, hoffset⟩ := pickedMoment_spec hlib hwhole
  have hsets := withTime_sets hlib (pickedMoment lib info.encode) p
  rw [hshown] at hsets
  have hhandler : timeChanged lib info.encode p.value
      = [("dateTime", .number (lib.unix (withTime lib (pickedMoment lib info.encode) p)))] := by
    have hmissing : JSArg.item (.number p.hour.value :: .number p.minute.value
        :: (p.second.map fun s => JSArg.number s.value).toList) 3 = .undefined := by
      cases p.second <;> rfl
    rw [timeChanged, parsed_time, hmissing, hlib.second_undefined]
    rfl
  rw [hhandler, unix_eq_seconds hlib, hsets.shown, hsets.offset, hoffset]

/-! ## When it is what was picked -/

/-- The time of day that is read is that of the record, where the offset is what it is taken for. -/
def ReadsTime (now nanOffset : ℤ) (info : TimeInfoResponse) : Prop :=
  let q := readSeconds now info.dateTime
  let o := readOffset nanOffset info.offset
  (q + o) % 86400 - o = (info.dateTime + info.offset) % 86400 - info.offset

/-- The day that is read is that of the record, and the second that is read the picked one. -/
def ReadsDay (now nanOffset : ℤ) (info : TimeInfoResponse) (second : ℕ) : Prop :=
  let q := readSeconds now info.dateTime
  let o := readOffset nanOffset info.offset
  (q + o) / 86400 * 86400 + (q + o) % 60 - o
    = (info.dateTime + info.offset) / 86400 * 86400 + second - info.offset

instance (now nanOffset : ℤ) (info : TimeInfoResponse) : Decidable (ReadsTime now nanOffset info) :=
  inferInstanceAs (Decidable (_ = _))

instance (now nanOffset : ℤ) (info : TimeInfoResponse) (second : ℕ) :
    Decidable (ReadsDay now nanOffset info second) :=
  inferInstanceAs (Decidable (_ = _))

/-- The saved attributes are one instant, and it shows this at an offset. -/
def Saves (saved : List (String × JSON ℤ)) (offset : ℤ) (c : Civil) : Prop :=
  ∃ x, saved = [("dateTime", .number x)] ∧ civilOf (x + offset) = c

lemma saves_iff {x offset : ℤ} {c : Civil} :
    Saves [("dateTime", .number x)] offset c ↔ x + offset = c.seconds := by
  rw [← civilOf_eq_iff]
  constructor
  · rintro ⟨y, hy, hcivil⟩
    injection hy with hhead
    injection hhead with hkey hnumber
    injection hnumber with hxy
    rw [hxy]
    exact hcivil
  · exact fun hcivil => ⟨x, rfl, hcivil⟩

/-- **What was picked.**  A date saves the instant of this date and of the time of day that the record
has, at its offset, exactly if that is the time of day read.  A time of day saves the instant of it
on the day that the record has exactly if that is the day read, and the second read the picked
one. -/
theorem timePicked_iff (hlib : lib.Documented now nanOffset) {info : TimeInfoResponse}
    (hwhole : 60 ∣ info.offset) :
    (∀ p : PickedDate, Saves (dateChanged lib info.encode p.value) info.offset
        ⟨p.date, (civilOf (info.dateTime + info.offset)).time⟩ ↔ ReadsTime now nanOffset info) ∧
    ∀ p : PickedTime, Saves (timeChanged lib info.encode p.value) info.offset
        ⟨(civilOf (info.dateTime + info.offset)).date, p.time⟩ ↔
      ReadsDay now nanOffset info (secondOf p.second) := by
  constructor
  · intro p
    rw [dateChanged_saves hlib hwhole, saves_iff, Civil.seconds, Civil.seconds, readCivil,
      seconds_time_civilOf, seconds_time_civilOf, ReadsTime]
    dsimp only
    omega
  · intro p
    rw [timeChanged_saves hlib hwhole, saves_iff, Civil.seconds, Civil.seconds, readCivil,
      dayNumber_civilOf, dayNumber_civilOf, TimeOfDay.seconds, TimeOfDay.seconds, ReadsDay,
      second_civilOf]
    dsimp only [PickedTime.time]
    omega

/-- The last second before 1970, at an offset of one hour. -/
def secondBefore : TimeInfoResponse := ⟨-1, "Europe/Brussels", 3600, false, ""⟩

/-- Noon of a day in 2017, in UTC. -/
def noonInApril : TimeInfoResponse := ⟨1491220800, "Europe/Brussels", 3600, false, ""⟩

/-- A day later. -/
def fourthOfApril : PickedDate where
  year := ⟨['2', '0', '1', '7'], by decide⟩
  month := ⟨['0', '4'], by decide⟩
  day := ⟨['0', '4'], by decide⟩
  month_pos := by decide
  day_pos := by decide
  day_le := by decide

/-- At its last second the record is read as it is. -/
theorem timePicked_secondBefore :
    Saves (dateChanged (momentLib 0) secondBefore.encode fourthOfApril.value) 3600
      ⟨fourthOfApril.date, (civilOf 3599).time⟩ :=
  ((timePicked_iff (momentLib_documented 0) (show 60 ∣ secondBefore.offset by decide)).1
    fourthOfApril).mpr (by decide)

/-- The date is saved with the time of day of an instant in January 1970. -/
theorem timePicked_is_lost :
    ¬ ∀ (M : Type) (lib : MomentLib M) (now nanOffset : ℤ) (info : TimeInfoResponse),
      lib.Documented now nanOffset → 60 ∣ info.offset →
      (∀ p : PickedDate, Saves (dateChanged lib info.encode p.value) info.offset
        ⟨p.date, (civilOf (info.dateTime + info.offset)).time⟩) ∧
      ∀ p : PickedTime, Saves (timeChanged lib info.encode p.value) info.offset
        ⟨(civilOf (info.dateTime + info.offset)).date, p.time⟩ := by
  intro h
  have hdate := (h Instant (momentLib 0) 0 0 noonInApril (momentLib_documented 0) (by decide)).1
    fourthOfApril
  rw [dateChanged_saves (momentLib_documented 0) (by decide), saves_iff] at hdate
  exact absurd hdate (by decide)

end Snapweb
