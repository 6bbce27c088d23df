import SqlTemplate.Text.Padded

/-!
# Dates, times of day and their texts

Values that a statement carries as quoted text: calendar dates, times of day with an optional offset
from universal time, and the two together.

Two points in time that carry an offset are the same when they fall on the same instant, whatever the
offsets; `DateTime.instant` and `TimeOfDay.sinceMidnight` give the measure that decides it.
-/

namespace SqlTemplate

open SqlTemplate.Text

structure Date where
  year : Nat
  month : Nat
  day : Nat
deriving DecidableEq, Repr

/-- A time of day, to the microsecond. -/
structure TimeOfDay where
  hour : Nat
  minute : Nat
  second : Nat
  microsecond : Nat
  /-- Seconds ahead of universal time, if the offset is known. -/
  offset : Option Int
deriving DecidableEq, Repr

structure DateTime where
  date : Date
  time : TimeOfDay
deriving DecidableEq, Repr

/-! ## Texts -/

/-- Year, month and day, joined by hyphens. -/
def Date.text (date : Date) : List Char :=
  padded 10 4 date.year ++ '-' :: padded 10 2 date.month ++ '-' :: padded 10 2 date.day

/-- The sign, hours and minutes of an offset; its seconds only if there are any. -/
def offsetText (offset : Int) : List Char :=
  let seconds := offset.natAbs
  (if offset < 0 then '-' else '+') :: padded 10 2 (seconds / 3600) ++
    ':' :: padded 10 2 (seconds / 60 % 60) ++
    (if seconds % 60 = 0 then [] else ':' :: padded 10 2 (seconds % 60))

/-- Hours, minutes and seconds joined by colons, the microseconds only if there are any, and the
offset only if it is known. -/
def TimeOfDay.text (time : TimeOfDay) : List Char :=
  padded 10 2 time.hour ++ ':' :: padded 10 2 time.minute ++ ':' :: padded 10 2 time.second ++
    (if time.microsecond = 0 then [] else '.' :: padded 10 6 time.microsecond) ++
    (time.offset.map offsetText).getD []

/-- The date and the time with a space between them. -/
def DateTime.text (dateTime : DateTime) : List Char :=
  dateTime.date.text ++ ' ' :: dateTime.time.text

/-! ## Instants -/

/-- The number of days of all years before the given one. -/
def daysBeforeYear (year : Nat) : Int :=
  let past : Int := (year : Int) - 1
  365 * past + past / 4 - past / 100 + past / 400

/-- Whether the year has a 29th of February. -/
def isLeapYear (year : Nat) : Bool :=
  year % 4 == 0 && (year % 100 != 0 || year % 400 == 0)

/-- The number of days of a year before the given month. -/
def daysBeforeMonth (year month : Nat) : Nat :=
  let lengths := [31, if isLeapYear year then 29 else 28, 31, 30, 31, 30, 31, 31, 30, 31, 30, 31]
  (lengths.take (month - 1)).foldl (· + ·) 0

/-- The number of the day in the whole calendar. -/
def Date.dayNumber (date : Date) : Int :=
  daysBeforeYear date.year + daysBeforeMonth date.year date.month + date.day

/-- Seconds from midnight of universal time; a time without an offset is taken as it stands. -/
def TimeOfDay.sinceMidnight (time : TimeOfDay) : Int :=
  3600 * time.hour + 60 * time.minute + time.second - time.offset.getD 0

/-- Seconds of universal time since the first day of the calendar. -/
def DateTime.instant (dateTime : DateTime) : Int :=
  86400 * dateTime.date.dayNumber + dateTime.time.sinceMidnight

end SqlTemplate
