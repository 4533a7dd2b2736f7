/-!
# Double/Basic — numbers of double precision and their decimal digits

A finite number is a whole number of at most 53 binary digits times a power of two.  Arithmetic is
exact and then rounded: `nearest` is the one place where precision is lost.
-/

namespace GuideMarkup

/-- A number of double precision. -/
inductive Double where
  /-- The mantissa times a power of two, with a sign that zero has too. -/
  | finite (negative : Bool) (mantissa : Nat) (exponent : Int)
  | infinite (negative : Bool)
  | nan
deriving DecidableEq, Repr

namespace Double

/-! ## Rounding -/

/-- The least exponent. -/
def leastExponent : Int := -1074

/-- The greatest exponent. -/
def greatestExponent : Int := 971

/-- The least mantissa that takes all binary digits. -/
def fullMantissa : Nat := 0x10000000000000

/-- The quotient rounded to the nearest whole number, a tie to the even one. -/
def roundedQuotient (num den : Nat) : Nat :=
  let quotient := num / den
  let twice := 2 * (num % den)
  if twice < den || (twice = den && quotient % 2 = 0) then quotient else quotient + 1

/-- The quotient times a power of a base, as a quotient. -/
def scaled (base num den : Nat) (exponent : Int) : Nat × Nat :=
  if exponent < 0 then (num, den * Nat.pow base exponent.natAbs)
  else (num * Nat.pow base exponent.natAbs, den)

/-- The exponent of the greatest power of two that is not above a quotient. -/
def binaryExponent (num den : Nat) : Int :=
  let guess : Int := (num.log2 : Int) - den.log2
  let (a, b) := scaled 2 num den (-guess)
  if a < b then guess - 1 else guess

/-- The number with a mantissa and an exponent, unless it is too large. -/
def ofMantissa (negative : Bool) (mantissa : Nat) (exponent : Int) : Double :=
  if greatestExponent < exponent then .infinite negative else .finite negative mantissa exponent

/-- **The number nearest to a quotient**; of two that are equally near, the one with the even
mantissa. -/
def nearest (negative : Bool) (num den : Nat) : Double :=
  if num = 0 then .finite negative 0 leastExponent
  else
    let exponent := max (binaryExponent num den - 52) leastExponent
    let (a, b) := scaled 2 num den (-exponent)
    let mantissa := roundedQuotient a b
    if mantissa = 2 * fullMantissa then ofMantissa negative fullMantissa (exponent + 1)
    else ofMantissa negative mantissa exponent

/-- The number nearest to an integer. -/
def ofInt (n : Int) : Double :=
  nearest (decide (n < 0)) n.natAbs 1

/-- Zero, without a sign. -/
def zero : Double := ofInt 0

/-! ## Value -/

/-- The number has a minus sign. -/
def isNegative : Double → Bool
  | .finite negative _ _ => negative
  | .infinite negative => negative
  | .nan => false

/-- The number is zero, with either sign. -/
def isZero : Double → Bool
  | .finite _ mantissa _ => mantissa == 0
  | _ => false

/-- The integer that the number is, if it is one. -/
def toInt? : Double → Option Int
  | .finite negative mantissa exponent =>
    let (num, den) := scaled 2 mantissa 1 exponent
    if num % den = 0 then
      some (if negative then -((num / den : Nat) : Int) else ((num / den : Nat) : Int))
    else none
  | _ => none

/-! ## Arithmetic -/

/-- The number with the other sign. -/
def neg : Double → Double
  | .finite negative mantissa exponent => .finite (!negative) mantissa exponent
  | .infinite negative => .infinite (!negative)
  | .nan => .nan

/-- The exact product, rounded. -/
def mul : Double → Double → Double
  | .finite s m e, .finite t n f =>
    let (num, den) := scaled 2 (m * n) 1 (e + f)
    nearest (s != t) num den
  | .infinite s, .infinite t => .infinite (s != t)
  | .infinite s, .finite t n _ => if n = 0 then .nan else .infinite (s != t)
  | .finite s m _, .infinite t => if m = 0 then .nan else .infinite (s != t)
  | _, _ => .nan

/-- A mantissa as a count of the unit with a lower exponent. -/
def counted (negative : Bool) (mantissa : Nat) (exponent unit : Int) : Int :=
  let count : Nat := mantissa * Nat.pow 2 (exponent - unit).toNat
  if negative then -(count : Int) else count

/-- The exact sum, rounded; a sum that cancels has no minus sign. -/
def add : Double → Double → Double
  | .finite s m e, .finite t n f =>
    let unit := min e f
    let sum := counted s m e unit + counted t n f unit
    let (num, den) := scaled 2 sum.natAbs 1 unit
    nearest (decide (sum < 0) || (sum == 0 && s && t)) num den
  | .infinite s, .infinite t => if s = t then .infinite s else .nan
  | .infinite s, .finite .. => .infinite s
  | .finite .., .infinite t => .infinite t
  | _, _ => .nan

end Double

/-! ## Decimal digits

Digits are chosen in exact arithmetic: the fewest that read back (`shortest`), so many in all
(`significant`), or so many after the point (`places`).  Zeros at the end never belong to them. -/

/-- Decimal digits and the place of the point: so many digits stand before it. -/
structure Digits where
  digits : List Char
  point : Int
deriving DecidableEq, Repr

namespace Digits

/-- The digits of a whole number times a power of ten. -/
def ofNat (n : Nat) (exponent : Int) : Digits :=
  let digits := Nat.toDigits 10 n
  ⟨(digits.reverse.dropWhile (· == '0')).reverse, (digits.length : Int) + exponent⟩

/-- The digits of zero. -/
def zero : Digits := ⟨['0'], 1⟩

end Digits

namespace Double

/-! ### The place of the point -/

/-- The quotient is below a power of ten. -/
def isBelow (num den : Nat) (exponent : Int) : Bool :=
  let (a, b) := scaled 10 num den (-exponent)
  decide (a < b)

/-- The first exponent from a given one on whose power of ten is above the quotient. -/
def pointFrom (num den : Nat) : Nat → Int → Int
  | 0, exponent => exponent
  | fuel + 1, exponent =>
    if isBelow num den exponent then exponent else pointFrom num den fuel (exponent + 1)

/-- The number of digits before the point of a quotient; below one it is not positive.  Three
tenths of the binary exponent miss it by a few at most. -/
def pointOf (num den : Nat) : Int :=
  pointFrom num den 4 ((binaryExponent num den * 30103).fdiv 100000)

/-! ### Digits -/

/-- A quotient rounded to a multiple of a power of ten, a tie to the even one. -/
def roundedDigits (num den : Nat) (unit : Int) : Digits :=
  let (a, b) := scaled 10 num den (-unit)
  Digits.ofNat (roundedQuotient a b) unit

/-- **The digits of a quotient, so many in all.** -/
def significant (num den count : Nat) : Digits :=
  if num = 0 then .zero else roundedDigits num den (pointOf num den - count)

/-- **The digits of a quotient, so many after the point.** -/
def places (num den count : Nat) : Digits :=
  if num = 0 then .zero
  else
    let found := roundedDigits num den (-(count : Int))
    if found.digits.isEmpty then ⟨[], -(count : Int)⟩ else found

/-- A whole number of units reads back as the given number. -/
def readsBack (x : Double) (n : Nat) (unit : Int) : Bool :=
  let (a, b) := scaled 10 n 1 unit
  nearest false a b == x

/-- The digits of a quotient in the given unit that read back as a number, if any do; of two
neighbours the nearer, and on a tie the even one. -/
def shortestIn? (x : Double) (num den : Nat) (unit : Int) : Option Digits :=
  let (a, b) := scaled 10 num den (-unit)
  let below := a / b
  let near := roundedQuotient a b
  let far := if near = below then below + 1 else below
  if readsBack x near unit then some (.ofNat near unit)
  else if readsBack x far unit then some (.ofNat far unit)
  else none

/-- **The fewest digits that read back** as the number that a quotient is; seventeen are enough. -/
def shortest (num den : Nat) : Digits :=
  if num = 0 then .zero
  else
    let x := nearest false num den
    let point := pointOf num den
    let found := (List.range 17).findSome? fun (count : Nat) =>
      shortestIn? x num den (point - (count + 1 : Nat))
    found.getD (significant num den 17)

end Double

end GuideMarkup
