import QueryExpr.Number.Digits

/-!
# Dates and times

Days of the proleptic Gregorian calendar, times of day with leap seconds, and their written forms.
-/

namespace QueryExpr

/-- Years with 366 days. -/
def isLeapYear (year : Int) : Bool :=
  year % 4 == 0 && (year % 100 != 0 || year % 400 == 0)

/-- The number of days of a month of a year; other numbers name no month. -/
def daysInMonth (year : Int) : Nat → Nat
  | 1 | 3 | 5 | 7 | 8 | 10 | 12 => 31
  | 4 | 6 | 9 | 11 => 30
  | 2 => if isLeapYear year then 29 else 28
  | _ => 0

/-- The first year of the calendar. -/
def firstYear : Int := -262143

/-- The last year of the calendar. -/
def lastYear : Int := 262142

/-- A day of the calendar. -/
structure Date where
  year : Int
  month : Nat
  day : Nat
  year_range : firstYear ≤ year ∧ year ≤ lastYear
  day_range : 1 ≤ day ∧ day ≤ daysInMonth year month
  deriving DecidableEq

/-- A time of day. Second 60 is a leap second, which any minute may have. -/
structure Time where
  hour : Nat
  minute : Nat
  second : Nat
  nanosecond : Nat
  hour_lt : hour < 24
  minute_lt : minute < 60
  second_le : second ≤ 60
  nanosecond_lt : nanosecond < 1000000000
  deriving DecidableEq

/-- A time on a day. -/
structure Timestamp where
  date : Date
  time : Time
  deriving DecidableEq

namespace Date

/-- The day with the given numbers, if there is one. -/
def of? (year : Int) (month day : Nat) : Option Date :=
  if hy : firstYear ≤ year ∧ year ≤ lastYear then
    if hd : 1 ≤ day ∧ day ≤ daysInMonth year month then some ⟨year, month, day, hy, hd⟩
    else none
  else none

/-- A year has four digits; outside 0 to 9999 it also has a sign, and further digits as needed. -/
def yearText (year : Int) : String :=
  if 0 ≤ year ∧ year ≤ 9999 then Digits.text 4 year.natAbs
  else (if year < 0 then "-" else "+") ++ Digits.text 4 year.natAbs

/-- The written form `2020-01-02`. -/
def text (date : Date) : String :=
  yearText date.year ++ "-" ++ Digits.text 2 date.month ++ "-" ++ Digits.text 2 date.day

end Date

namespace Time

/-- The time with the given numbers, if there is one. -/
def of? (hour minute second nanosecond : Nat) : Option Time :=
  if h : hour < 24 ∧ minute < 60 ∧ second ≤ 60 ∧ nanosecond < 1000000000 then
    some ⟨hour, minute, second, nanosecond, h.1, h.2.1, h.2.2.1, h.2.2.2⟩
  else none

/-- The fraction of a second with the fewest of 3, 6 or 9 digits that are exact; none for zero. -/
def fractionText (nanosecond : Nat) : String :=
  if nanosecond = 0 then ""
  else if nanosecond % 1000000 = 0 then "." ++ Digits.text 3 (nanosecond / 1000000)
  else if nanosecond % 1000 = 0 then "." ++ Digits.text 6 (nanosecond / 1000)
  else "." ++ Digits.text 9 nanosecond

/-- The written form `01:02:03.5`, with the fraction in whole groups of three digits. -/
def text (time : Time) : String :=
  Digits.text 2 time.hour ++ ":" ++ Digits.text 2 time.minute ++ ":" ++ Digits.text 2 time.second
    ++ fractionText time.nanosecond

end Time

namespace Timestamp

/-- The written form `2020-01-02T01:02:03`. -/
def text (timestamp : Timestamp) : String :=
  timestamp.date.text ++ "T" ++ timestamp.time.text

end Timestamp

end QueryExpr
