import GuideMarkup.Moment

/-!
# Template/Calendar — how a moment fills the place of a field

    %d/%m/%Y    %A %e %B    %H:%M

The layout of a moment is a text in which a letter after a percent sign stands for a part of the
moment.  A letter that stands for nothing stays as it is, with its sign.
-/

namespace GuideMarkup
namespace Calendar

/-! ## Days of the week -/

/-- The names of the days of the week, from Monday on. -/
def dayNames : List String :=
  ["Monday", "Tuesday", "Wednesday", "Thursday", "Friday", "Saturday", "Sunday"]

/-- The names of the months. -/
def monthNames : List String :=
  ["January", "February", "March", "April", "May", "June", "July", "August", "September",
    "October", "November", "December"]

/-- The number of the day in its week, from zero for Monday on. -/
def weekday (d : Day) : Nat :=
  (d.number + 6) % 7

/-- The number of the week in which a day is, where the first week begins with the first day of the
year that has the number `first` in the week. -/
def weekFrom (first : Nat) (d : Day) : Nat :=
  (d.ofYear + 6 - (weekday d + 7 - first) % 7) / 7

/-- The number of weeks in a year of whole weeks: a year with more than the usual fifty-two has a
Thursday at its beginning or at its end. -/
def weeksOf (year : Nat) : Nat :=
  if weekday ⟨year, 1, 1⟩ = 3 || weekday ⟨year, 12, 31⟩ = 3 then 53 else 52

/-- The year of whole weeks to which a day belongs, and the number of its week in it; the first week
is the one with the first Thursday. -/
def wholeWeek (d : Day) : Nat × Nat :=
  let week := (d.ofYear + 9 - weekday d) / 7
  if week = 0 then (d.year - 1, weeksOf (d.year - 1))
  else if weeksOf d.year < week then (d.year + 1, 1)
  else (d.year, week)

/-! ## Parts of a moment -/

/-- A number with spaces in front up to two characters. -/
def spaced (n : Nat) : List Char :=
  let digits := Nat.toDigits 10 n
  List.replicate (2 - digits.length) ' ' ++ digits

/-- The first three letters of a name. -/
def short (name : String) : List Char :=
  name.toList.take 3

/-- The hour on a clock of twelve hours. -/
def twelfth (hour : Nat) : Nat :=
  if hour % 12 = 0 then 12 else hour % 12

/-- How far a clock is ahead, without a mark between hours and minutes. -/
def aheadDigits (ahead : Int) : List Char :=
  (Moment.aheadText ahead).filter (· != ':')

/-- The name of a clock that says how far it is ahead. -/
def clockName (ahead : Int) : List Char :=
  "UTC".toList ++ if ahead = 0 then [] else Moment.aheadText ahead

/-- The seconds since the beginning of 1970, on the clock of the moment. -/
def seconds (d : Day) (c : Clock) : Int :=
  (((d.number : Int) - 719163) * 24 + c.hour) * 3600 + c.minute * 60 + c.second

/-- The part of a day that a letter stands for. -/
def dayPart? (d : Day) (c : Char) : Option (List Char) :=
  let dayName := dayNames.getD (weekday d) ""
  let monthName := monthNames.getD (d.month - 1) ""
  match c with
  | 'a' => some (short dayName)
  | 'A' => some dayName.toList
  | 'b' | 'h' => some (short monthName)
  | 'B' => some monthName.toList
  | 'C' => some (Moment.padded 1 (d.year / 100))
  | 'd' => some (Moment.padded 2 d.day)
  | 'e' => some (spaced d.day)
  | 'g' => some (Moment.padded 2 ((wholeWeek d).1 % 100))
  | 'G' => some (Moment.padded 1 (wholeWeek d).1)
  | 'j' => some (Moment.padded 3 d.ofYear)
  | 'm' => some (Moment.padded 2 d.month)
  | 'u' => some (Moment.padded 1 (weekday d + 1))
  | 'U' => some (Moment.padded 2 (weekFrom 6 d))
  | 'V' => some (Moment.padded 2 (wholeWeek d).2)
  | 'w' => some (Moment.padded 1 ((weekday d + 1) % 7))
  | 'W' => some (Moment.padded 2 (weekFrom 0 d))
  | 'y' => some (Moment.padded 2 (d.year % 100))
  | 'Y' => some (Moment.padded 1 d.year)
  | _ => none

/-- The part of a time that a letter stands for. -/
def clockPart? (k : Clock) (c : Char) : Option (List Char) :=
  match c with
  | 'f' => some (Moment.padded 6 k.micro)
  | 'H' => some (Moment.padded 2 k.hour)
  | 'I' => some (Moment.padded 2 (twelfth k.hour))
  | 'k' => some (spaced k.hour)
  | 'l' => some (spaced (twelfth k.hour))
  | 'M' => some (Moment.padded 2 k.minute)
  | 'p' => some (if k.hour < 12 then ['A', 'M'] else ['P', 'M'])
  | 'P' => some (if k.hour < 12 then ['a', 'm'] else ['p', 'm'])
  | 'S' => some (Moment.padded 2 k.second)
  | 'z' => some ((k.ahead.map aheadDigits).getD [])
  | 'Z' => some ((k.ahead.map clockName).getD [])
  | _ => none

/-- The letters that stand for a layout of their own. -/
def shorthands : List (Char × String) :=
  [('c', "%a %b %e %H:%M:%S %Y"), ('D', "%m/%d/%y"), ('F', "%Y-%m-%d"), ('r', "%I:%M:%S %p"),
    ('R', "%H:%M"), ('T', "%H:%M:%S"), ('x', "%m/%d/%y"), ('X', "%H:%M:%S")]

/-- What a letter stands for that has no shorthand. -/
def part (d : Day) (k : Clock) (c : Char) : List Char :=
  match dayPart? d c, clockPart? k c with
  | some s, _ => s
  | none, some s => s
  | none, none =>
    if c = 's' then (toString (seconds d k)).toList
    else if c = 'n' then ['\n']
    else if c = 't' then ['\t']
    else if c = '%' then ['%']
    else ['%', c]

/-! ## Layouts -/

/-- A layout without shorthands. -/
def expand : List Char → List Char
  | '%' :: c :: rest =>
    match shorthands.lookup c with
    | some s => s.toList ++ expand rest
    | none => '%' :: c :: expand rest
  | c :: rest => c :: expand rest
  | [] => []

/-- A layout without shorthands, filled. -/
def fill (d : Day) (k : Clock) : List Char → List Char
  | '%' :: c :: rest => part d k c ++ fill d k rest
  | c :: rest => c :: fill d k rest
  | [] => []

/-- **A moment laid out**; a day begins at midnight. -/
def layOut (m : Moment) (layout : List Char) : List Char :=
  if layout.isEmpty then m.display
  else fill m.day (m.clock.getD ⟨0, 0, 0, 0, none⟩) (expand layout)

end Calendar
end GuideMarkup
