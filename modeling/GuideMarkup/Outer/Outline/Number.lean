import GuideMarkup.Double.Notation
import GuideMarkup.Outer.Outline.Line
import GuideMarkup.Text.Lower

/-!
# Outer/Outline/Number — numbers

    12   0b101   0x1f   017   1:30   1_000   2.5   1.5e+3   1:30.5   .inf

Integers are written in base ten, with the mark of another base, or as counts of sixty; a point
makes a number one of double precision.  Low lines between digits count for nothing.  A text without
quotes is a number only if it is written so; a text that is said to be one may take more liberties.
-/

namespace GuideMarkup
namespace Outline

/-! ## Parts -/

/-- Digits of a base that is at most sixteen, with low lines among them. -/
def isRun (base : Nat) (s : List Char) : Bool :=
  s.all fun c => (isHexDigit c && decide (hexValue c < base)) || c == '_'

/-- Digits and low lines after a first digit. -/
def isCount (s : List Char) : Bool :=
  s.head?.any Char.isDigit && isRun 10 s

/-- A count of less than sixty. -/
def isSixtieth : List Char → Bool
  | [c] => c.isDigit
  | [c, d] => '0' ≤ c && c ≤ '5' && d.isDigit
  | _ => false

/-- The text without its low lines. -/
def withoutLowLines (s : List Char) : List Char :=
  s.filter (· != '_')

/-- Whether a text has a minus sign, and the text without its sign. -/
def takeSign : List Char → Bool × List Char
  | '-' :: rest => (true, rest)
  | '+' :: rest => (false, rest)
  | s => (false, s)

/-! ## Integers -/

/-- A text without quotes and without a sign is an integer. -/
def isMagnitude (s : List Char) : Bool :=
  match s with
  | '0' :: 'b' :: rest => !rest.isEmpty && isRun 2 rest
  | '0' :: 'x' :: rest => !rest.isEmpty && isRun 16 rest
  | '0' :: rest => isRun 8 rest
  | _ =>
    match pieces (· == ':') s with
    | [] => false
    | first :: more => isCount first && more.all isSixtieth

/-- A text without quotes is an integer. -/
def isInteger (s : List Char) : Bool :=
  isMagnitude (takeSign s).2

/-- The value of a digit of a base; digits below ten may be of any script. -/
def digitIn? (base : Nat) (c : Char) : Option Nat :=
  let value := (digitValue? c).or (if isHexDigit c then some (hexValue c) else none)
  value.filter (· < base)

/-- The letter that marks a base. -/
def baseLetter : Nat → Char
  | 2 => 'b'
  | 8 => 'o'
  | _ => 'x'

/-- The number that a text in a base consists of, blanks and its mark apart. -/
def wholeIn? (base : Nat) (s : List Char) : Option Int :=
  let (negative, s) := takeSign (withoutPadding s)
  let digits := match s with
    | '0' :: c :: rest => if c.toLower = baseLetter base then rest else s
    | _ => s
  if digits.isEmpty then none
  else do
    let n := (← digits.mapM (digitIn? base)).foldl (fun n d => base * n + d) 0
    return if negative then -(n : Int) else n

/-- The number without its sign that a text is said to be. -/
def integerOf? (s : List Char) : Option Int :=
  match s with
  | ['0'] => some 0
  | '0' :: 'b' :: rest => wholeIn? 2 rest
  | '0' :: 'x' :: rest => wholeIn? 16 rest
  | '0' :: _ => wholeIn? 8 s
  | _ => do
    let parts ← (pieces (· == ':') s).mapM fun part => wholeInt? (String.ofList part)
    return parts.foldl (fun n part => 60 * n + part) 0

/-- **The integer that a text is said to be.** -/
def readInteger (text : List Char) : Except NoValue Int :=
  let (negative, s) := takeSign (withoutLowLines text)
  if s.isEmpty then .error .emptyNumber
  else match integerOf? s with
    | some n => .ok (if negative then -n else n)
    | none => .error .noNumber

/-! ## Numbers with a point -/

/-- Nothing, or an exponent with a sign. -/
def isExponentOrEnd : List Char → Bool
  | [] => true
  | e :: sign :: digits =>
    (e == 'e' || e == 'E') && (sign == '-' || sign == '+') && !digits.isEmpty &&
      digits.all Char.isDigit
  | _ => false

/-- Digits after a point, and perhaps an exponent. -/
def isFraction (s : List Char) : Bool :=
  isExponentOrEnd (s.dropWhile fun c => c.isDigit || c == '_')

/-- A count of less than sixty with a fraction. -/
def isSixtiethFraction (s : List Char) : Bool :=
  isSixtieth (s.takeWhile (· != '.')) && s.contains '.' && isRun 10 (s.dropWhile (· != '.')).tail

/-- One of the words is the text after a point. -/
def isPointed (words : List String) (s : List Char) : Bool :=
  s.head? == some '.' && words.contains (String.ofList s.tail)

/-- A text without quotes and without a sign is a number that may have one. -/
def isSignedReal (s : List Char) : Bool :=
  let whole := s.takeWhile (fun c => c.isDigit || c == '_')
  isPointed ["inf", "Inf", "INF"] s ||
    (isCount whole && (match s.drop whole.length with
      | '.' :: rest => isFraction rest
      | ':' :: _ =>
        let parts := (pieces (· == ':') s).tail
        parts.dropLast.all isSixtieth && parts.getLast?.any isSixtiethFraction
      | _ => false))

/-- **A text without quotes is a number of double precision.** -/
def isReal (s : List Char) : Bool :=
  isSignedReal (takeSign s).2 || isPointed ["nan", "NaN", "NAN"] s ||
    (s.head? == some '.' && s.tail.head?.any Char.isDigit && isFraction s.tail)

/-- The sum of counts of powers of sixty, the last of them first. -/
def sumOfSixties : Double → Nat → List Double → Except NoValue Double
  | sum, _, [] => .ok sum
  | sum, unit, part :: rest =>
    match Double.ofInt unit with
    | .infinite _ => .error .tooLarge
    | factor => sumOfSixties (sum.add (part.mul factor)) (60 * unit) rest

/-- The number without its sign that a text in small letters is said to be. -/
def realOf (s : List Char) : Except NoValue Double :=
  if s = ".inf".toList then .ok (.infinite false)
  else if s = ".nan".toList then .ok .nan
  else if s.contains ':' then
    match (pieces (· == ':') s).mapM Double.ofText? with
    | some parts => sumOfSixties .zero 1 parts.reverse
    | none => .error .noNumber
  else match Double.ofText? s with
    | some x => .ok x
    | none => .error .noNumber

/-- **The number of double precision that a text is said to be.** -/
def readReal (text : List Char) : Except NoValue Double := do
  let s := lower (withoutLowLines text)
  if s.isEmpty then throw .emptyNumber
  let (negative, s) := takeSign s
  let x ← realOf s
  return if negative then x.neg else x

end Outline
end GuideMarkup
