import SchemaAtlas.Text.Digit
import SchemaAtlas.Text.Separated

/-!
# Dates and moments

A `Date` is a day of the Gregorian calendar between the years 1 and 9999, and a `Moment` a date with
a time of day, perhaps with its distance from Greenwich.  `Date.ofNumbers` and `Moment.ofNumbers`
refuse numbers that name no day or no time, with the first `CalendarFault` that applies.  Both types
have a `text`, as they stand on their own, and a `literal`, which also shows the type.
-/

namespace SchemaAtlas

open Text

/-- A number that has no place in the calendar. -/
inductive CalendarFault where
  | year (n : Nat)
  | month
  | day
  | hour
  | minute
  | second
  /-- A whole day or more between a place and Greenwich, in minutes. -/
  | offset (minutes : Int)
  deriving DecidableEq

/-- The number of days in a month. -/
def daysIn (year month : Nat) : Nat :=
  if month = 2 then
    if year % 4 = 0 ∧ (year % 100 ≠ 0 ∨ year % 400 = 0) then 29 else 28
  else if month ∈ [4, 6, 9, 11] then 30
  else 31

/-- A day. -/
structure Date where
  year : Nat
  month : Nat
  day : Nat
  deriving DecidableEq, Inhabited

namespace Date

/-- The day with the given numbers. -/
def ofNumbers (year month day : Nat) : Except CalendarFault Date :=
  if year = 0 ∨ 9999 < year then .error (.year year)
  else if month = 0 ∨ 12 < month then .error .month
  else if day = 0 ∨ daysIn year month < day then .error .day
  else .ok ⟨year, month, day⟩

/-- The number of days from the last day of the year 0 to the day. -/
def dayNumber (d : Date) : Nat :=
  let past := d.year - 1
  let months := (List.range' 1 (d.month - 1)).foldl (fun n month => n + daysIn d.year month) 0
  365 * past + past / 4 - past / 100 + past / 400 + months + d.day

/-- The day with its parts from the greatest to the least. -/
def text (d : Date) : String :=
  padded 4 d.year ++ "-" ++ padded 2 d.month ++ "-" ++ padded 2 d.day

/-- The numbers of the day. -/
def numbers (d : Date) : List Nat :=
  [d.year, d.month, d.day]

/-- The day in a form that shows its type. -/
def literal (d : Date) : String :=
  "datetime.date(" ++ joined ", " (d.numbers.map toString) ++ ")"

end Date

/-- A length of time in minutes, with the days apart, in a form that shows its type. -/
def durationLiteral (minutes : Int) : String :=
  let days := minutes.fdiv 1440
  let seconds := minutes.fmod 1440 * 60
  let part := fun (name : String) (n : Int) => if n = 0 then [] else [name ++ "=" ++ toString n]
  "datetime.timedelta(" ++ joined ", " (part "days" days ++ part "seconds" seconds) ++ ")"

/-- The wording of a calendar fault. -/
def CalendarFault.message : CalendarFault → String
  | year n => "year " ++ toString n ++ " is out of range"
  | month => "month must be in 1..12"
  | day => "day is out of range for month"
  | hour => "hour must be in 0..23"
  | minute => "minute must be in 0..59"
  | second => "second must be in 0..59"
  | offset minutes =>
    "offset must be a timedelta strictly between -timedelta(hours=24) and timedelta(hours=24), not "
      ++ durationLiteral minutes ++ "."

/-- A time of day. -/
structure TimeOfDay where
  hour : Nat
  minute : Nat
  second : Nat
  microsecond : Nat := 0
  deriving DecidableEq, Inhabited

/-- A time on a day. -/
structure Moment where
  date : Date
  time : TimeOfDay
  /-- How many minutes the clock is ahead of Greenwich, if that is known. -/
  offset : Option Int := none
  deriving DecidableEq, Inhabited

namespace Moment

/-- The moment with the given numbers. -/
def ofNumbers (year month day : Nat) (time : TimeOfDay) (offset : Option Int) :
    Except CalendarFault Moment := do
  match offset with
  | some minutes => if 1440 ≤ minutes.natAbs then throw (.offset minutes)
  | none => pure ()
  let date ← Date.ofNumbers year month day
  if 23 < time.hour then throw .hour
  if 59 < time.minute then throw .minute
  if 59 < time.second then throw .second
  return ⟨date, time, offset⟩

/-- The microseconds that the clock has counted since the last day of the year 0. -/
def clock (m : Moment) : Int :=
  (((m.date.dayNumber * 24 + m.time.hour) * 60 + m.time.minute) * 60 + m.time.second) * 1000000 +
    m.time.microsecond

/-- The two clocks show the same moment: the same numbers if neither place is known, the same
instant if both are. -/
def agrees (a b : Moment) : Bool :=
  match a.offset, b.offset with
  | none, none => a == b
  | some ahead, some behind => a.clock - ahead * 60000000 == b.clock - behind * 60000000
  | _, _ => false

/-- The distance from Greenwich in hours and minutes. -/
def offsetText (minutes : Int) : String :=
  (if minutes < 0 then "-" else "+") ++ padded 2 (minutes.natAbs / 60) ++ ":" ++
    padded 2 (minutes.natAbs % 60)

/-- The moment with its parts from the greatest to the least. -/
def text (m : Moment) : String :=
  m.date.text ++ " " ++ padded 2 m.time.hour ++ ":" ++ padded 2 m.time.minute ++ ":" ++
    padded 2 m.time.second ++
    (if m.time.microsecond = 0 then "" else "." ++ padded 6 m.time.microsecond) ++
    (m.offset.map offsetText).getD ""

/-- The distance from Greenwich in a form that shows its type. -/
def offsetLiteral (minutes : Int) : String :=
  "tzinfo=datetime.timezone" ++
    if minutes = 0 then ".utc" else "(" ++ durationLiteral minutes ++ ")"

/-- The moment in a form that shows its type; seconds are left out where they and what is behind
them are zero. -/
def literal (m : Moment) : String :=
  let t := m.time
  let numbers := m.date.numbers ++ [t.hour, t.minute] ++
    (if t.second = 0 ∧ t.microsecond = 0 then [] else [t.second]) ++
    (if t.microsecond = 0 then [] else [t.microsecond])
  "datetime.datetime(" ++
    joined ", " (numbers.map toString ++ m.offset.toList.map offsetLiteral) ++ ")"

theorem agrees_self (m : Moment) : m.agrees m := by
  cases h : m.offset <;> simp [agrees, h]

end Moment

theorem Date.ofNumbers_eq_ok_iff {year month day : Nat} {d : Date} :
    Date.ofNumbers year month day = .ok d ↔
      d = ⟨year, month, day⟩ ∧ 1 ≤ year ∧ year ≤ 9999 ∧ 1 ≤ month ∧ month ≤ 12 ∧ 1 ≤ day ∧
        day ≤ daysIn year month := by
  unfold Date.ofNumbers
  repeat' split
  all_goals simp only [Except.ok.injEq, reduceCtorEq, false_iff]
  all_goals (try constructor) <;> grind

end SchemaAtlas
