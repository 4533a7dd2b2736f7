import GuideMarkup.Numeral
import GuideMarkup.Outer.Outline.Line

/-!
# Outer/Outline/Calendar — days and times

    2001-12-14   2001-12-14t21:59:43.10-05:00   2001-12-14 21:59:43 Z

A day is three numbers; a time follows after the letter T or blanks, and may end with the distance
of the clock from the standard one.
-/

namespace GuideMarkup
namespace Outline

/-- A moment as it is written; the calendar and the clock need not have it. -/
structure WrittenMoment where
  year : Nat
  month : Nat
  day : Nat
  /-- The hour, the minute, the second and its millionths. -/
  time : Option (Nat × Nat × Nat × Nat)
  ahead : Option Int

/-- The number that ASCII digits stand for. -/
def digitsValue (s : List Char) : Nat :=
  Numeral.magnitude (s.map hexValue)

/-- The number of at least and at most so many digits at the front, and what follows it. -/
def takeNumber (least most : Nat) (s : List Char) : Option (Nat × List Char) :=
  let digits := (s.takeWhile Char.isDigit).take most
  if digits.length < least then none else some (digitsValue digits, s.drop digits.length)

/-- What follows a character. -/
def after? (c : Char) : List Char → Option (List Char)
  | [] => none
  | d :: rest => if d = c then some rest else none

/-- What follows the gap between a day and a time. -/
def afterGap? : List Char → Option (List Char)
  | [] => none
  | c :: rest =>
    if c = 'T' || c = 't' then some rest
    else if c = ' ' || c = '\t' then some (rest.dropWhile fun c => c == ' ' || c == '\t')
    else none

/-- The millionths after a point, and what follows them. -/
def takeMillionths : List Char → Nat × List Char
  | '.' :: rest =>
    let digits := (rest.takeWhile Char.isDigit).take 6
    (digitsValue (digits ++ List.replicate (6 - digits.length) '0'), rest.dropWhile Char.isDigit)
  | s => (0, s)

/-- The distance of a clock in minutes that a text consists of. -/
def distance? (s : List Char) : Option Int := do
  let (hours, rest) ← takeNumber 1 2 s
  match rest with
  | [] => return 60 * hours
  | _ =>
    let (minutes, rest) ← takeNumber 2 2 (← after? ':' rest)
    if rest.isEmpty then return 60 * hours + minutes else none

/-- How far a clock is ahead; nothing need be said about it. -/
def ahead? (s : List Char) : Option (Option Int) :=
  if s.isEmpty then some none
  else match s.dropWhile (fun c => c == ' ' || c == '\t') with
    | ['Z'] => some (some 0)
    | '+' :: rest => (distance? rest).map some
    | '-' :: rest => (distance? rest).map fun n => some (-n)
    | _ => none

/-- **The moment that a text is**, if it is written like one. -/
def writtenMoment? (s : List Char) : Option WrittenMoment := do
  let (year, rest) ← takeNumber 4 4 s
  let (month, rest) ← takeNumber 1 2 (← after? '-' rest)
  let (day, rest) ← takeNumber 1 2 (← after? '-' rest)
  if rest.isEmpty then return ⟨year, month, day, none, none⟩
  else
    let (hour, rest) ← takeNumber 1 2 (← afterGap? rest)
    let (minute, rest) ← takeNumber 2 2 (← after? ':' rest)
    let (second, rest) ← takeNumber 2 2 (← after? ':' rest)
    let (micro, rest) := takeMillionths rest
    return ⟨year, month, day, some (hour, minute, second, micro), ← ahead? rest⟩

/-- A text without quotes is a moment; a day alone has all its digits. -/
def isMoment (s : List Char) : Bool :=
  (writtenMoment? s).any fun written => written.time.isSome || s.length == 10

/-- The moment of the calendar that is written. -/
def WrittenMoment.moment? (written : WrittenMoment) : Option Moment := do
  let day ← Day.ofNumbers? written.year written.month written.day
  match written.time with
  | none => return ⟨day, none⟩
  | some (hour, minute, second, micro) =>
    return ⟨day, some (← Clock.ofNumbers? hour minute second micro written.ahead)⟩

/-- **The moment that a text is said to be.** -/
def readMoment (text : List Char) : Except NoValue Moment :=
  match writtenMoment? text with
  | none => .error .noMoment
  | some written =>
    match written.moment? with
    | some moment => .ok moment
    | none => .error .unrealMoment

end Outline
end GuideMarkup
