/- # Points in time

A calendar date and a time of day, with an offset from universal time or without one, and the texts
in which it is written.
-/
import SchemaScript.Text.Numeral

namespace SchemaScript

/-- A date and time of day; `offset` counts the seconds ahead of universal time, if it is known. -/
structure Instant where
  year : Nat
  month : Nat
  day : Nat
  hour : Nat
  minute : Nat
  second : Nat
  microsecond : Nat
  offset : Option Int
deriving DecidableEq, Repr, Inhabited

namespace Instant

open Text (decimal)

/-- The date: four, two and two digits. -/
def dateText (t : Instant) : String :=
  decimal 4 t.year ++ "-" ++ decimal 2 t.month ++ "-" ++ decimal 2 t.day

/-- The time of day to the second. -/
def clockText (t : Instant) : String :=
  decimal 2 t.hour ++ ":" ++ decimal 2 t.minute ++ ":" ++ decimal 2 t.second

/-- The offset: sign, hours and minutes, and seconds if there are any. -/
def offsetText (offset : Int) : String :=
  let n := offset.natAbs
  (if offset < 0 then "-" else "+") ++ decimal 2 (n / 3600) ++ ":" ++ decimal 2 (n / 60 % 60) ++
    if n % 60 = 0 then "" else ":" ++ decimal 2 (n % 60)

/-- Date and time with `separator` between them, microseconds if there are any, and the offset. -/
def textWith (separator : String) (t : Instant) : String :=
  t.dateText ++ separator ++ t.clockText ++
    (if t.microsecond = 0 then "" else "." ++ decimal 6 t.microsecond) ++
    match t.offset with
    | none => ""
    | some o => offsetText o

/-- The standard text, with a `T` between date and time. -/
def iso (t : Instant) : String := t.textWith "T"

/-- The text for reading, with a space between date and time. -/
def plain (t : Instant) : String := t.textWith " "

/-- The text of an offset in a constructor call; days count down from midnight below zero. -/
def offsetCall (offset : Int) : String :=
  if offset = 0 then "datetime.timezone.utc" else
  let days := Int.fdiv offset 86400
  let seconds := Int.fmod offset 86400
  let parts := (if days = 0 then [] else ["days=" ++ Text.signedDecimal days]) ++
    (if seconds = 0 then [] else ["seconds=" ++ Text.signedDecimal seconds])
  "datetime.timezone(datetime.timedelta(" ++ String.intercalate ", " parts ++ "))"

/-- The text as a constructor call: seconds and microseconds only as far as they are not zero at the
end. -/
def call (t : Instant) : String :=
  let seconds :=
    if t.microsecond ≠ 0 then [t.second, t.microsecond]
    else if t.second ≠ 0 then [t.second] else []
  let parts := ([t.year, t.month, t.day, t.hour, t.minute] ++ seconds).map (decimal 1) ++
    match t.offset with
    | none => []
    | some o => ["tzinfo=" ++ offsetCall o]
  "datetime.datetime(" ++ String.intercalate ", " parts ++ ")"

end Instant

namespace Instant

/-- The year of an era of 400 years that a day of the era falls into; years begin with March. -/
def yearOfEra (day : Nat) : Nat := (day - day / 1460 + day / 36524 - day / 146096) / 365

/-- Year, month and day of a day of a year that begins with March. -/
def dateInYear (year dayOfYear : Nat) : Nat × Nat × Nat :=
  let month := (5 * dayOfYear + 2) / 153
  let dayOfMonth := dayOfYear - (153 * month + 2) / 5 + 1
  if month < 10 then (year, month + 3, dayOfMonth) else (year + 1, month - 9, dayOfMonth)

/-- Year, month and day of the date that is `n` days after the first of March of the year zero, in the
calendar whose leap years recur every 400 years. -/
def dateOfDays (n : Nat) : Nat × Nat × Nat :=
  let year := yearOfEra (n % 146097)
  dateInYear (n / 146097 * 400 + year) (n % 146097 - (365 * year + year / 4 - year / 100))

/-- The number of days from the first of March of the year zero to a date. -/
def daysOfDate (year month day : Nat) : Nat :=
  let (year, month) := if 2 < month then (year, month - 3) else (year - 1, month + 9)
  365 * year + year / 4 - year / 100 + year / 400 + (153 * month + 2) / 5 + day - 1

/-- The days of an era lie in its years, of which none has more than 366 days. -/
theorem yearOfEra_bounds {day : Nat} (h : day < 146097) :
    yearOfEra day < 400 ∧ 365 * yearOfEra day + yearOfEra day / 4 - yearOfEra day / 100 ≤ day ∧
      day - (365 * yearOfEra day + yearOfEra day / 4 - yearOfEra day / 100) ≤ 365 := by
  -- The last day of the era is the leap day of its last year.
  by_cases hlast : day = 146096
  · subst hlast
    decide
  have hyear : yearOfEra day = (day - day / 1460 + day / 36524 - day / 146096) / 365 := rfl
  generalize yearOfEra day = year at hyear
  have hera : day / 146096 = 0 := by omega
  have hlow : year / 4 ≤ day / 1460 := by omega
  have hhigh : day / 1460 ≤ year / 4 + 1 := by omega
  have hcentury : year / 100 = day / 36524 := by omega
  omega

theorem daysOfDate_dateInYear (year : Nat) {day : Nat} (h : day ≤ 365) :
    daysOfDate (dateInYear year day).1 (dateInYear year day).2.1 (dateInYear year day).2.2 =
      365 * year + year / 4 - year / 100 + year / 400 + day := by
  have hfirst : (153 * ((5 * day + 2) / 153) + 2) / 5 ≤ day := by omega
  have hyear : year / 100 ≤ year / 4 := by omega
  by_cases hmonth : (5 * day + 2) / 153 < 10
  · have hlate : 2 < (5 * day + 2) / 153 + 3 := by omega
    simp only [dateInYear, if_pos hmonth, daysOfDate, if_pos hlate]
    omega
  · have hearly : ¬ 2 < (5 * day + 2) / 153 - 9 := by omega
    have hback : (5 * day + 2) / 153 - 9 + 9 = (5 * day + 2) / 153 := by omega
    simp only [dateInYear, if_neg hmonth, daysOfDate, if_neg hearly, hback, Nat.add_sub_cancel]
    omega

/-- Counting the days to the date of a day gives the day. -/
theorem daysOfDate_dateOfDays (n : Nat) :
    daysOfDate (dateOfDays n).1 (dateOfDays n).2.1 (dateOfDays n).2.2 = n := by
  obtain ⟨hyear, hbefore, hafter⟩ := yearOfEra_bounds (Nat.mod_lt n (by decide : 0 < 146097))
  rw [dateOfDays, daysOfDate_dateInYear _ hafter]
  generalize yearOfEra (n % 146097) = year at *
  have hfour : (n / 146097 * 400 + year) / 4 = n / 146097 * 100 + year / 4 := by omega
  have hcentury : (n / 146097 * 400 + year) / 100 = n / 146097 * 4 + year / 100 := by omega
  have hera : (n / 146097 * 400 + year) / 400 = n / 146097 := by omega
  rw [hfour, hcentury, hera]
  omega

example : dateOfDays (daysOfDate 2024 2 29) = (2024, 2, 29) := by decide

/-- The instant on a date, in universal time, at the time of day of a count of microseconds that began at a midnight. -/
def onDate (date : Nat × Nat × Nat) (microseconds : Nat) : Instant :=
  let seconds := microseconds / 1000000
  { year := date.1
    month := date.2.1
    day := date.2.2
    hour := seconds / 3600 % 24
    minute := seconds / 60 % 60
    second := seconds % 60
    microsecond := microseconds % 1000000
    offset := some 0 }

/-- The instant that is some microseconds after the start of 1970, in universal time. -/
def ofEpoch (microseconds : Nat) : Instant :=
  onDate (dateOfDays (microseconds / 1000000 / 86400 + 719468)) microseconds

example : ofEpoch 0 = ⟨1970, 1, 1, 0, 0, 0, 0, some 0⟩ := by decide

/-- The microseconds that a date and a time of day are away from the first of March of the year zero. -/
def microseconds (t : Instant) : Int :=
  let seconds := ((daysOfDate t.year t.month t.day * 24 + t.hour) * 60 + t.minute) * 60 + t.second
  (seconds * 1000000 + t.microsecond : Nat)

/-- Whether two points in time are the same moment: in universal time if both have an offset, as they are
written if none has one. -/
def same (t u : Instant) : Bool :=
  match t.offset, u.offset with
  | none, none => t == u
  | some o, some p => t.microseconds - o * 1000000 == u.microseconds - p * 1000000
  | _, _ => false

theorem microseconds_onDate (date : Nat × Nat × Nat) (n : Nat) :
    (onDate date n).microseconds =
      ((((daysOfDate date.1 date.2.1 date.2.2 * 24 + n / 1000000 / 3600 % 24) * 60 + n / 1000000 / 60 % 60) * 60 +
        n / 1000000 % 60) * 1000000 + n % 1000000 : Nat) := rfl

/-- The days, hours, minutes and seconds of a count of seconds make up the count. -/
theorem seconds_eq (s : Nat) : (((s / 86400 + 719468) * 24 + s / 3600 % 24) * 60 + s / 60 % 60) * 60 + s % 60 =
    719468 * 86400 + s := by
  omega

theorem microseconds_ofEpoch (n : Nat) :
    (ofEpoch n).microseconds = ((719468 * 86400 + n / 1000000) * 1000000 + n % 1000000 : Nat) := by
  rw [ofEpoch, microseconds_onDate, daysOfDate_dateOfDays, seconds_eq]

/-- The wall clock shows different moments at different counts. -/
theorem same_ofEpoch_iff (m n : Nat) : (ofEpoch m).same (ofEpoch n) = true ↔ m = n := by
  have hoffset (n : Nat) : (ofEpoch n).offset = some 0 := rfl
  simp only [same, hoffset, microseconds_ofEpoch, beq_iff_eq]
  omega

end Instant

/-- A clock that shows given times: `next`, then the `later` ones, and the last of them from then
on. -/
structure Clock where
  next : Instant
  later : List Instant := []
deriving DecidableEq, Repr, Inhabited

namespace Clock

/-- The clock after its present time was read. -/
def advance (c : Clock) : Clock :=
  match c.later with
  | [] => c
  | t :: rest => ⟨t, rest⟩

/-- The clock that shows the times of a list; `fallback` if the list is empty. -/
def ofList (fallback : Instant) : List Instant → Clock
  | [] => ⟨fallback, []⟩
  | t :: rest => ⟨t, rest⟩

/-- A clock that has stopped at a time shows it again. -/
theorem advance_stopped (t : Instant) : (⟨t, []⟩ : Clock).advance = ⟨t, []⟩ := rfl

end Clock

end SchemaScript
