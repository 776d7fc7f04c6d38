import OpcodeForge.Number.Numeral

/-!
# Dates

A configuration value may be a date, with or without a time of day. A time of day
has microseconds, and it may have an offset from universal time in minutes. Two
times with offsets are the same when they are the same instant.

Dates are written year first with dashes, times with colons. Messages that show a
value inside a list write it as a call with the same numbers, without seconds
that are zero.

## Main definitions

* `Date`: A day of the Gregorian calendar.
* `Moment`: A day with a time.
* `Date.iso`, `Moment.iso`: The standard text.
* `Date.call`, `Moment.call`: The text inside other values.
-/

namespace OpcodeForge

/-- A day of the Gregorian calendar. -/
structure Date where
  year : Nat
  month : Nat
  day : Nat
  deriving DecidableEq, Repr

/-- A day with a time, and the minutes that it is ahead of universal time. -/
structure Moment where
  date : Date
  hour : Nat
  minute : Nat
  second : Nat
  microsecond : Nat
  offset : Option Int
  deriving DecidableEq, Repr

/-- Whether a year has a leap day. -/
def isLeapYear (year : Nat) : Bool :=
  year % 4 == 0 && (year % 100 ≠ 0 || year % 400 == 0)

/-- The number of days of a month. -/
def daysInMonth (year month : Nat) : Nat :=
  if month == 2 then (if isLeapYear year then 29 else 28)
  else if month == 4 || month == 6 || month == 9 || month == 11 then 30
  else 31

/-- Whether a date is in the calendar, which has the years 1 to 9999. -/
def Date.isValid (d : Date) : Bool :=
  1 ≤ d.year && d.year ≤ 9999 && 1 ≤ d.month && d.month ≤ 12
    && 1 ≤ d.day && d.day ≤ daysInMonth d.year d.month

/-- The number of days before a date, from the first year on. -/
def Date.ordinal (d : Date) : Nat :=
  let y := d.year - 1
  let months := (List.range (d.month - 1)).map fun m => daysInMonth d.year (m + 1)
  365 * y + y / 4 - y / 100 + y / 400 + months.foldl (· + ·) 0 + d.day

/-- Whether a time of day is on the clock, and its offset less than a day. -/
def Moment.isValid (m : Moment) : Bool :=
  m.date.isValid && m.hour < 24 && m.minute < 60 && m.second < 60
    && m.microsecond < 1000000 && m.offset.all fun o => o.natAbs < 1440

/-- The minutes from the first year to a time, in universal time if its offset is
    known. -/
def Moment.minutes (m : Moment) : Int :=
  ((m.date.ordinal * 24 + m.hour) * 60 + m.minute : Nat) - m.offset.getD 0

/-- Whether two times are the same instant. A time with an offset and one without
    never are. -/
def Moment.sameInstant (a b : Moment) : Bool :=
  a.offset.isSome == b.offset.isSome && a.minutes == b.minutes
    && a.second == b.second && a.microsecond == b.microsecond

/-- A number with at least `width` decimal digits. -/
def padded (width n : Nat) : String :=
  let ds := Nat.toDigits 10 n
  String.ofList (List.replicate (width - ds.length) '0' ++ ds)

/-- A date in standard form. -/
def Date.iso (d : Date) : String :=
  padded 4 d.year ++ "-" ++ padded 2 d.month ++ "-" ++ padded 2 d.day

/-- An offset as a sign, hours and minutes. -/
def offsetText (o : Int) : String :=
  (if o < 0 then "-" else "+") ++ padded 2 (o.natAbs / 60) ++ ":"
    ++ padded 2 (o.natAbs % 60)

/-- A time in standard form, with a separator between day and time. -/
def Moment.iso (separator : String) (m : Moment) : String :=
  m.date.iso ++ separator ++ padded 2 m.hour ++ ":" ++ padded 2 m.minute ++ ":"
    ++ padded 2 m.second
    ++ (if m.microsecond == 0 then "" else "." ++ padded 6 m.microsecond)
    ++ (match m.offset with
      | none => ""
      | some o => offsetText o)

/-- Numbers with commas between them. -/
def numberList (ns : List Nat) : String :=
  ", ".intercalate (ns.map Number.decimalNat)

/-- A date as it is shown inside other values. -/
def Date.call (d : Date) : String :=
  "datetime.date(" ++ numberList [d.year, d.month, d.day] ++ ")"

/-- An offset as it is shown inside other values: whole days, of which only the
    one before zero can occur, and seconds from then on. -/
def offsetCall (o : Int) : String :=
  if o == 0 then "datetime.timezone.utc"
  else
    -- Seconds are never negative, so a day is taken off first.
    let part := if o < 0 then "days=-1, seconds=" else "seconds="
    "datetime.timezone(datetime.timedelta(" ++ part
      ++ Number.decimalNat ((if o < 0 then o + 1440 else o) * 60).toNat ++ "))"

/-- A time as it is shown inside other values. -/
def Moment.call (m : Moment) : String :=
  let small :=
    if m.microsecond ≠ 0 then [m.second, m.microsecond]
    else if m.second ≠ 0 then [m.second]
    else []
  "datetime.datetime("
    ++ numberList ([m.date.year, m.date.month, m.date.day, m.hour, m.minute] ++ small)
    ++ (match m.offset with
      | none => ""
      | some o => ", tzinfo=" ++ offsetCall o)
    ++ ")"

end OpcodeForge
