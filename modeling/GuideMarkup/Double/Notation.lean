import GuideMarkup.Double.Basic
import GuideMarkup.Numeral

/-!
# Double/Notation — how a number of double precision is written and read

    1.5   1e+16   0.0001   1e-05   inf

`Double.display` writes the fewest digits that read back: positionally from 0.0001 up to below
10^16, otherwise with a signed exponent of at least two digits.  Other styles fix the number of
digits.
-/

namespace GuideMarkup

/-- Which digits of a number are written, and where. -/
inductive Style where
  /-- The fewest digits that read back. -/
  | shortest
  /-- So many digits after the point. -/
  | places (count : Nat)
  /-- One digit before the point and so many after it, with an exponent. -/
  | exponent (count : Nat)
  /-- So many digits in all, with an exponent where the number is large or small; `wide` leaves
  room for a digit after the point. -/
  | general (count : Nat) (wide : Bool)
deriving DecidableEq, Repr

namespace Style

/-- The digits of a quotient in the style. -/
def digits (num den : Nat) : Style → Digits
  | .shortest => Double.shortest num den
  | .places count => Double.places num den count
  | .exponent count => Double.significant num den (count + 1)
  | .general count _ => Double.significant num den (max count 1)

/-- A number whose point stands there is written with an exponent. -/
def isExponential (point : Int) : Style → Bool
  | .shortest => decide (point ≤ -4) || decide (16 < point)
  | .places _ => false
  | .exponent _ => true
  | .general count wide =>
    decide (point ≤ -4) || decide (((max count 1 : Nat) : Int) - (if wide then 1 else 0) < point)

/-- A digit always follows the point, unless an exponent does. -/
def keepsPlace : Style → Bool
  | .shortest => true
  | .general _ wide => wide
  | _ => false

/-- Where the last digit stands that is written: digits and zeros up to there. -/
def lastDigit (found : Digits) (filled : Bool) : Style → Int
  | .shortest => found.digits.length
  | .places count => found.point + count
  | .exponent count => count + 1
  | .general count _ => if filled then ((max count 1 : Nat) : Int) else found.digits.length

end Style

/-- A number as it is written: the digits before the point, and all that follows them. -/
structure Written where
  whole : List Char
  rest : List Char
deriving DecidableEq, Repr

/-- The characters of a number. -/
def Written.toList (written : Written) : List Char :=
  written.whole ++ written.rest

namespace Double

/-- An exponent of ten, with its sign and at least two digits. -/
def exponentText (exponent : Int) : List Char :=
  let digits := Nat.toDigits 10 exponent.natAbs
  'e' :: (if exponent < 0 then '-' else '+') :: (List.replicate (2 - digits.length) '0' ++ digits)

/-- The digits before the point; there is always one. -/
def wholeDigits (digits : List Char) (point : Int) : List Char :=
  if point ≤ 0 then ['0']
  else digits.take point.toNat ++ List.replicate (point.toNat - digits.length) '0'

/-- The digits after the point, up to the one that stands last. -/
def fractionDigits (digits : List Char) (point last : Int) : List Char :=
  let all := List.replicate (-point).toNat '0' ++ digits.drop point.toNat
  let count := (last - point).toNat
  all.take count ++ List.replicate (count - all.length) '0'

/-- **The digits of a quotient in a style**; a point without digits after it stays only where it is
asked for (`filled`). -/
def written (style : Style) (filled : Bool) (num den : Nat) : Written :=
  let found := style.digits num den
  let exponential := style.isExponential found.point
  let last := style.lastDigit found filled
  let point := if exponential then 1 else found.point
  let last := max last (if style.keepsPlace && !exponential then point + 1 else point)
  let fraction := fractionDigits found.digits point last
  ⟨wholeDigits found.digits point,
    (if fraction.isEmpty && !filled then [] else '.' :: fraction) ++
      (if exponential then exponentText (found.point - 1) else [])⟩

/-- A number in a style, without its sign. -/
def magnitude (style : Style) (filled : Bool) : Double → Written
  | .finite _ mantissa exponent =>
    let (num, den) := scaled 2 mantissa 1 exponent
    written style filled num den
  | .infinite _ => ⟨[], "inf".toList⟩
  | .nan => ⟨[], "nan".toList⟩

/-- A number in a style has no digits but zeros. -/
def vanishes (style : Style) : Double → Bool
  | .finite _ mantissa exponent =>
    let (num, den) := scaled 2 mantissa 1 exponent
    (style.digits num den).digits.all (· == '0')
  | _ => false

/-- **The text of a number.** -/
def display (x : Double) : List Char :=
  (if x.isNegative then ['-'] else []) ++ (magnitude .shortest false x).toList

end Double

/-! ## Reading

    12   .5   -1.5e-3   infinity   nan

Digits may be of any script, and blanks may stand around the number.  A number that is too large is
infinite. -/

namespace Double

/-- The digits at which a number is certainly infinite, or certainly zero. -/
def farDigits : Int := 400

/-- The number nearest to a whole number times a power of ten. -/
def ofDecimal (negative : Bool) (n : Nat) (exponent : Int) : Double :=
  let size : Int := (Nat.toDigits 10 n).length + exponent
  if n = 0 || size < -farDigits then nearest negative 0 1
  else if farDigits < size then .infinite negative
  else
    let (num, den) := scaled 10 n 1 exponent
    nearest negative num den

/-- The integer after the mark of an exponent; nothing else may follow. -/
def exponent? (s : List Char) : Option Int :=
  let value (digits : List Char) : Option Int :=
    match Numeral.takeDigits digits with
    | (d :: ds, []) => some (Numeral.magnitude (d :: ds))
    | _ => none
  match s with
  | '-' :: digits => (value digits).map (- ·)
  | '+' :: digits => value digits
  | digits => value digits

/-- The fraction after a point at the front of a text, and what follows it. -/
def takeFraction : List Char → List Nat × List Char
  | '.' :: rest => Numeral.takeDigits rest
  | s => ([], s)

/-- A number without a sign that is written in digits. -/
def decimal? (negative : Bool) (s : List Char) : Option Double :=
  let (whole, rest) := Numeral.takeDigits s
  let (fraction, rest) := takeFraction rest
  let digits := whole ++ fraction
  let ofExponent (exponent : Int) : Double :=
    ofDecimal negative (Numeral.magnitude digits) (exponent - fraction.length)
  if digits.isEmpty then none
  else match rest with
    | [] => some (ofExponent 0)
    | 'e' :: rest | 'E' :: rest => (exponent? rest).map ofExponent
    | _ => none

/-- A number without a sign, in small letters. -/
def unsigned? (negative : Bool) (s : List Char) : Option Double :=
  if s = "inf".toList || s = "infinity".toList then some (.infinite negative)
  else if s = "nan".toList then some .nan
  else decimal? negative s

/-- **The number that a text in small letters consists of**, blanks around it apart. -/
def ofText? (s : List Char) : Option Double :=
  match withoutPadding s with
  | '-' :: rest => unsigned? true rest
  | '+' :: rest => unsigned? false rest
  | rest => unsigned? false rest

end Double

end GuideMarkup
