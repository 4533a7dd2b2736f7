import GuideMarkup.Text.Blank

/-!
# Numeral — decimal digits of every script, and numerals of bounded length

The decimal digits of a script are ten consecutive code points, so a table of the zeros gives every
digit its value.  A numeral is a sign and a run of such digits; it has a value only if it has at most
`Numeral.maxDigits` of them, leading zeros included.  Nor is an integer written that needs more
(`Numeral.isWritable`).  `leadingInt?` reads the numeral a text starts with; `wholeInt?` reads a text
that is a numeral and nothing else.
-/

namespace GuideMarkup

/-! ## Decimal digits -/

/-- The zeros of all scripts, as of Unicode 14, in order. -/
def digitZeros : List Nat :=
  [0x30, 0x660, 0x6F0, 0x7C0, 0x966, 0x9E6, 0xA66, 0xAE6, 0xB66, 0xBE6, 0xC66, 0xCE6, 0xD66, 0xDE6,
  0xE50, 0xED0, 0xF20, 0x1040, 0x1090, 0x17E0, 0x1810, 0x1946, 0x19D0, 0x1A80, 0x1A90, 0x1B50,
  0x1BB0, 0x1C40, 0x1C50, 0xA620, 0xA8D0, 0xA900, 0xA9D0, 0xA9F0, 0xAA50, 0xABF0, 0xFF10, 0x104A0,
  0x10D30, 0x11066, 0x110F0, 0x11136, 0x111D0, 0x112F0, 0x11450, 0x114D0, 0x11650, 0x116C0,
  0x11730, 0x118E0, 0x11950, 0x11C50, 0x11D50, 0x11DA0, 0x16A60, 0x16AC0, 0x16B50, 0x1D7CE,
  0x1D7D8, 0x1D7E2, 0x1D7EC, 0x1D7F6, 0x1E140, 0x1E2F0, 0x1E950, 0x1FBF0]

/-- The value of a decimal digit of any script. -/
def digitValue? (c : Char) : Option Nat :=
  (digitZeros.find? fun z => z ≤ c.toNat && c.toNat < z + 10).map (c.toNat - ·)

/-- The character is a decimal digit of some script. -/
def isDecimal (c : Char) : Bool :=
  (digitValue? c).isSome

theorem digitValue?_lt {c : Char} {d : Nat} (h : digitValue? c = some d) : d < 10 := by
  simp only [digitValue?, Option.map_eq_some_iff] at h
  obtain ⟨z, hz, rfl⟩ := h
  have := List.find?_some hz
  simp only [Bool.and_eq_true, decide_eq_true_eq] at this
  omega

/-! ## Hexadecimal digits -/

/-- An ASCII hexadecimal digit. -/
def isHexDigit (c : Char) : Bool :=
  c.isDigit || ('a' ≤ c && c ≤ 'f') || ('A' ≤ c && c ≤ 'F')

/-- The value of a hexadecimal digit. -/
def hexValue (c : Char) : Nat :=
  if c.isDigit then c.toNat - 48 else if 'a' ≤ c then c.toNat - 87 else c.toNat - 55

/-! ## Numerals -/

/-- A decimal numeral, most significant digit first. -/
structure Numeral where
  negative : Bool
  digits : List Nat
deriving DecidableEq, Repr

namespace Numeral

/-- The longest numeral that is read or written. -/
def maxDigits : Nat := 4300

/-- The number that a run of digits stands for. -/
def magnitude (digits : List Nat) : Nat :=
  digits.foldl (fun n d => 10 * n + d) 0

/-- The integer that the numeral stands for, whatever its length. -/
def toInt (n : Numeral) : Int :=
  if n.negative then -(magnitude n.digits : Int) else magnitude n.digits

/-- The value of the numeral; a numeral with too many digits has none. -/
def value? (n : Numeral) : Option Int :=
  if n.digits.length ≤ maxDigits then some n.toInt else none

/-- The values of the digits at the front of a text, and the text after them. -/
def takeDigits : List Char → List Nat × List Char
  | [] => ([], [])
  | c :: rest =>
    match digitValue? c with
    | some d =>
      let more := takeDigits rest
      (d :: more.1, more.2)
    | none => ([], c :: rest)

theorem length_takeDigits (s : List Char) :
    (takeDigits s).1.length + (takeDigits s).2.length = s.length := by
  induction s with
  | nil => rfl
  | cons c rest ih =>
    rw [takeDigits]
    split
    · simp only [List.length_cons]; omega
    · simp

/-- The unsigned numeral at the front of a text, given the sign that was read before it. -/
def unsigned? (negative : Bool) (s : List Char) : Option (Numeral × List Char) :=
  match takeDigits s with
  | ([], _) => none
  | (digits, rest) => some (⟨negative, digits⟩, rest)

/-- The numeral at the front of a text, with an optional `+` or `-`. -/
def signed? : List Char → Option (Numeral × List Char)
  | '-' :: rest => unsigned? true rest
  | '+' :: rest => unsigned? false rest
  | s => unsigned? false s

/-! ### Writing -/

/-- The number has at most so many digits. -/
def fits (n : Nat) : Nat → Bool
  | 0 => false
  | count + 1 => n < 10 || fits (n / 10) count

/-- The integer is short enough to be written. -/
def isWritable (n : Int) : Bool :=
  fits n.natAbs maxDigits

end Numeral

/-! ### The integer at the front of a text -/

/-- A numeral has more digits than are read. -/
inductive NumeralError where
  | tooLong
deriving DecidableEq, Repr

/-- **The integer at the front of a text**, after its leading blanks; what follows the digits is
ignored.  A text that starts with no numeral has none, and an overlong numeral is an error. -/
def leadingInt? (s : String) : Except NumeralError (Option Int) :=
  match Numeral.signed? (trimLeft s.toList) with
  | none => .ok none
  | some (numeral, _) =>
    match numeral.value? with
    | some n => .ok (some n)
    | none => .error .tooLong

/-! ### A text that is one integer -/

/-- The digits of a text that consists of digits only, with single low lines allowed between
them. -/
def groupedDigits? : List Char → Option (List Nat)
  | [] => none
  | [c] => (digitValue? c).map ([·])
  | c :: '_' :: rest =>
    match digitValue? c, groupedDigits? rest with
    | some d, some ds => some (d :: ds)
    | _, _ => none
  | c :: rest =>
    match digitValue? c, groupedDigits? rest with
    | some d, some ds => some (d :: ds)
    | _, _ => none

/-- A blank that may stand around a whole text; the ASCII separators may not. -/
def isPadding (c : Char) : Bool :=
  isBlank c && !(Span.mk 0x1C 0x1F).holds c

/-- The text without the blanks that may stand around a number. -/
def withoutPadding (s : List Char) : List Char :=
  ((s.dropWhile isPadding).reverse.dropWhile isPadding).reverse

/-- The integer a text consists of, blanks around it apart. -/
def wholeInt? (s : String) : Option Int :=
  let read (negative : Bool) (digits : List Char) : Option Int :=
    (groupedDigits? digits).bind fun ds => Numeral.value? ⟨negative, ds⟩
  match withoutPadding s.toList with
  | '-' :: rest => read true rest
  | '+' :: rest => read false rest
  | rest => read false rest

/-! ### Bounds -/

/-- The value moved into the interval; when the bounds are crossed the upper one wins. -/
def clamp (value lower upper : Int) : Int :=
  min (max value lower) upper

end GuideMarkup
