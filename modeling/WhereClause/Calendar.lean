import WhereClause.Number.Decimal

/-!
# Dates and times

Days of the proleptic Gregorian calendar, times of day to the nanosecond, and their texts.

Main definitions:

* `Date`, `TimeOfDay`, `DateTime`;
* `Date.ofYmd?`, `TimeOfDay.ofParts?`: the checked constructors;
* `Date.text`, `DateTime.text`: the texts used in SQL and in messages;
* `DateTime.isoText`: the text used in JSON, which keeps the fraction of a second.

A leap second is the second 59 with a billion or more nanoseconds, and is written as second 60.
-/

set_option autoImplicit false

namespace WhereClause

def isLeapYear (year : Int) : Bool :=
  year % 4 == 0 && (year % 100 != 0 || year % 400 == 0)

def daysInMonth (year : Int) (month : Nat) : Nat :=
  if month = 2 then (if isLeapYear year then 29 else 28)
  else if month = 4 ∨ month = 6 ∨ month = 9 ∨ month = 11 then 30
  else 31

structure Date where
  /-- The year, where 0 is the year before year 1. -/
  year : Int
  month : Nat
  day : Nat
  month_mem : 1 ≤ month ∧ month ≤ 12
  day_mem : 1 ≤ day ∧ day ≤ daysInMonth year month
deriving DecidableEq, Repr

/-- A time of day. -/
structure TimeOfDay where
  hour : Nat
  minute : Nat
  second : Nat
  /-- The nanoseconds, a billion or more in a leap second. -/
  nanosecond : Nat
  hour_lt : hour < 24
  minute_lt : minute < 60
  second_lt : second < 60
  /-- Only the last second of a minute may be a leap second. -/
  nanosecond_lt : nanosecond < 1000000000 ∨ (second = 59 ∧ nanosecond < 2000000000)
deriving DecidableEq, Repr

/-- A day and a time on it. -/
structure DateTime where
  date : Date
  time : TimeOfDay
deriving DecidableEq, Repr

/-- A number with at least `width` digits. -/
def paddedNumeral (width n : Nat) : Text :=
  Text.padStart '0' width (Numeral.ofNat n)

namespace Date

def ofYmd? (year : Int) (month day : Nat) : Option Date :=
  if h : (1 ≤ month ∧ month ≤ 12) ∧ 1 ≤ day ∧ day ≤ daysInMonth year month then
    some ⟨year, month, day, h.1, h.2⟩
  else none

/-- The year with four digits, and with a sign in front outside the years 0 to 9999. -/
def yearText (year : Int) : Text :=
  let digits := paddedNumeral 4 year.natAbs
  if year < 0 then '-' :: digits
  else if 9999 < year then '+' :: digits
  else digits

/-- Year, month and day, with hyphens between them. -/
def text (d : Date) : Text :=
  yearText d.year ++ '-' :: paddedNumeral 2 d.month ++ '-' :: paddedNumeral 2 d.day

end Date

namespace TimeOfDay

def ofParts? (hour minute second nanosecond : Nat) : Option TimeOfDay :=
  if h : hour < 24 ∧ minute < 60 ∧ second < 60 ∧
      (nanosecond < 1000000000 ∨ (second = 59 ∧ nanosecond < 2000000000)) then
    some ⟨hour, minute, second, nanosecond, h.1, h.2.1, h.2.2.1, h.2.2.2⟩
  else none

/-- The second as it is written: 60 in a leap second. -/
def writtenSecond (t : TimeOfDay) : Nat :=
  if t.nanosecond < 1000000000 then t.second else t.second + 1

/-- Hour, minute and second, with colons between them. -/
def text (t : TimeOfDay) : Text :=
  paddedNumeral 2 t.hour ++ ':' :: paddedNumeral 2 t.minute ++ ':' ::
    paddedNumeral 2 t.writtenSecond

/-- The fraction of the second in the fewest groups of three digits, and nothing for a whole
second. -/
def fractionText (t : TimeOfDay) : Text :=
  let nanos := t.nanosecond % 1000000000
  if nanos = 0 then []
  else if nanos % 1000000 = 0 then '.' :: paddedNumeral 3 (nanos / 1000000)
  else if nanos % 1000 = 0 then '.' :: paddedNumeral 6 (nanos / 1000)
  else '.' :: paddedNumeral 9 nanos

end TimeOfDay

namespace DateTime

/-- The day and the time to the second, with a space between them. -/
def text (t : DateTime) : Text :=
  t.date.text ++ ' ' :: t.time.text

/-- The day and the time with its fraction, with a `T` between them. -/
def isoText (t : DateTime) : Text :=
  t.date.text ++ 'T' :: t.time.text ++ t.time.fractionText

end DateTime

end WhereClause
