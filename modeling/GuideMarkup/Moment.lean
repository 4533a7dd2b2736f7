/-!
# Moment — days, and times of days

    2001-12-14   2001-12-14 21:59:43.100000+01:00

A moment is a day of the calendar, perhaps with a time, which may say how far the clock is ahead of
the standard one.  Two moments of clocks that say so are the same if they are the same instant.
-/

namespace GuideMarkup

/-! ## Days -/

/-- A day of the calendar. -/
structure Day where
  year : Nat
  month : Nat
  day : Nat
deriving DecidableEq, Repr

namespace Day

/-- The year has a day more. -/
def isLeap (year : Nat) : Bool :=
  year % 4 == 0 && (year % 100 != 0 || year % 400 == 0)

/-- The number of days in a month. -/
def monthLength (year month : Nat) : Nat :=
  if month = 2 then if isLeap year then 29 else 28
  else if month = 4 || month = 6 || month = 9 || month = 11 then 30
  else 31

/-- The day with the given numbers, if the calendar has it; years have at most four digits. -/
def ofNumbers? (year month day : Nat) : Option Day :=
  if 1 ≤ year && year ≤ 9999 && 1 ≤ month && month ≤ 12 && 1 ≤ day &&
      day ≤ monthLength year month then some ⟨year, month, day⟩
  else none

/-- The number of the day in its year, from one on. -/
def ofYear (d : Day) : Nat :=
  (List.range (d.month - 1)).foldl (fun days month => days + monthLength d.year (month + 1)) d.day

/-- The number of the day in the calendar, from one on. -/
def number (d : Day) : Nat :=
  let before := d.year - 1
  365 * before + before / 4 - before / 100 + before / 400 + d.ofYear

end Day

/-! ## Times -/

/-- A time of a day. -/
structure Clock where
  hour : Nat
  minute : Nat
  second : Nat
  micro : Nat
  /-- How many minutes the clock is ahead of the standard one, if it is known. -/
  ahead : Option Int
deriving DecidableEq, Repr

/-- The time with the given numbers, if a clock shows it; a clock is ahead or behind by less than a
day. -/
def Clock.ofNumbers? (hour minute second micro : Nat) (ahead : Option Int) : Option Clock :=
  if hour < 24 && minute < 60 && second < 60 && ahead.all (fun n => n.natAbs < 1440) then
    some ⟨hour, minute, second, micro, ahead⟩
  else none

/-- A day, perhaps with a time. -/
structure Moment where
  day : Day
  clock : Option Clock
deriving DecidableEq, Repr

namespace Moment

/-- The minute on the standard clock and what is left of it, if that is known. -/
def instant? (m : Moment) : Option (Int × Nat × Nat) := do
  let clock ← m.clock
  let ahead ← clock.ahead
  let minutes := (m.day.number * 24 + clock.hour) * 60 + clock.minute
  return ((minutes : Int) - ahead, clock.second, clock.micro)

/-! ## Display -/

/-- The digits of a number, with zeros in front up to the given width. -/
def padded (width n : Nat) : List Char :=
  let digits := Nat.toDigits 10 n
  List.replicate (width - digits.length) '0' ++ digits

/-- How far a clock is ahead, in hours and minutes. -/
def aheadText (ahead : Int) : List Char :=
  (if ahead < 0 then '-' else '+') :: padded 2 (ahead.natAbs / 60) ++
    ':' :: padded 2 (ahead.natAbs % 60)

/-- The text of a day. -/
def dayText (d : Day) : List Char :=
  padded 4 d.year ++ '-' :: padded 2 d.month ++ '-' :: padded 2 d.day

/-- The text of a time. -/
def clockText (c : Clock) : List Char :=
  padded 2 c.hour ++ ':' :: padded 2 c.minute ++ ':' :: padded 2 c.second ++
    (if c.micro = 0 then [] else '.' :: padded 6 c.micro) ++
    (match c.ahead with | none => [] | some ahead => aheadText ahead)

/-- **The text of a moment.** -/
def display (m : Moment) : List Char :=
  match m.clock with
  | none => dayText m.day
  | some clock => dayText m.day ++ ' ' :: clockText clock

/-- Numbers with `, ` between them. -/
def listed (numbers : List Nat) : List Char :=
  (", ".intercalate (numbers.map toString)).toList

/-- How far a clock is ahead, as it is shown inside another value: as days and seconds. -/
def aheadShown (ahead : Int) : String :=
  if ahead = 0 then "datetime.timezone.utc"
  else
    let seconds := "seconds=" ++ toString ((ahead * 60) % 86400)
    let days := if ahead < 0 then "days=-1, " else ""
    "datetime.timezone(datetime.timedelta(" ++ days ++ seconds ++ "))"

/-- **How a moment is shown inside another value**: by its numbers, where seconds that are zero go
if nothing smaller follows. -/
def shown (m : Moment) : List Char :=
  let day := [m.day.year, m.day.month, m.day.day]
  match m.clock with
  | none => "datetime.date(".toList ++ listed day ++ [')']
  | some c =>
    let small :=
      if c.micro != 0 then [c.second, c.micro] else if c.second != 0 then [c.second] else []
    let ahead := match c.ahead with
      | none => []
      | some ahead => ", tzinfo=".toList ++ (aheadShown ahead).toList
    "datetime.datetime(".toList ++ listed (day ++ [c.hour, c.minute] ++ small) ++ ahead ++ [')']

end Moment
end GuideMarkup
