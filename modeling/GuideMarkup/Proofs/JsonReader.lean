import GuideMarkup.Data.Json
import GuideMarkup.Double.Notation

/-!
# Proofs/JsonReader — reading JSON

    null   true   -12   0.5e-3   "text"   [value, value]   {"name": value}

The reader takes all of the notation and not only what is written here: any blanks between the
marks, every escape, pairs of surrogates, fractions and exponents.  It knows nothing of the writer,
so that the two can be compared.  Of the fields of one name the last one counts.  A surrogate by
itself is no character and is refused.
-/

namespace GuideMarkup
namespace Json

/-! ## Blanks -/

/-- The character may stand between two marks. -/
def isSpace (c : Char) : Bool :=
  c = ' ' || c = '\t' || c = '\n' || c = '\r'

/-- The text without the blanks in front. -/
def skip (s : List Char) : List Char :=
  s.dropWhile isSpace

/-! ## Texts -/

/-- The letters that stand for a character after a backslash. -/
def letters : List (Char × Char) :=
  [('"', '"'), ('\\', '\\'), ('/', '/'), ('b', '\u0008'), ('f', '\u000c'), ('n', '\n'), ('r', '\r'),
    ('t', '\t')]

/-- The number that hexadecimal digits stand for. -/
def quad? (digits : List Char) : Option Nat :=
  if digits.all isHexDigit then some (digits.foldl (fun n c => 16 * n + hexValue c) 0) else none

/-- The numbers of the characters up to the quote that ends a text, and what follows the quote.  A
character by number may be one half of a pair. -/
def units? : List Char → Option (List Nat × List Char)
  | [] => none
  | '"' :: s => some ([], s)
  | '\\' :: 'u' :: a :: b :: c :: d :: s => do
    let unit ← quad? [a, b, c, d]
    let (units, s) ← units? s
    return (unit :: units, s)
  | '\\' :: letter :: s => do
    let c ← letters.lookup letter
    let (units, s) ← units? s
    return (c.toNat :: units, s)
  | c :: s =>
    if c = '\\' ∨ c.toNat < 0x20 then none
    else do
      let (units, s) ← units? s
      return (c.toNat :: units, s)

/-- The number is the first half of a pair. -/
def isHigh (unit : Nat) : Bool :=
  0xD800 ≤ unit && unit < 0xDC00

/-- The number is the second half of a pair. -/
def isLow (unit : Nat) : Bool :=
  0xDC00 ≤ unit && unit < 0xE000

/-- The character that a pair stands for. -/
def ofPair (high low : Nat) : Char :=
  Char.ofNat (0x10000 + 0x400 * (high - 0xD800) + (low - 0xDC00))

/-- The characters of the given numbers; halves must stand in pairs. -/
def characters? : List Nat → Option (List Char)
  | [] => some []
  | unit :: units =>
    if isHigh unit then
      match units with
      | low :: units =>
        if isLow low then (characters? units).map (ofPair unit low :: ·) else none
      | [] => none
    else if isLow unit then none
    else (characters? units).map (Char.ofNat unit :: ·)

/-- The text up to its final quote, and what follows it. -/
def string? (s : List Char) : Option (String × List Char) := do
  let (units, s) ← units? s
  return (String.ofList (← characters? units), s)

/-! ## Numbers -/

/-- The digits in front, of which there must be some, and what follows them. -/
def digits? (s : List Char) : Option (List Char × List Char) :=
  match s.takeWhile Char.isDigit with
  | [] => none
  | digits => some (digits, s.dropWhile Char.isDigit)

/-- The digits in front of the point, without needless zeros. -/
def whole? (s : List Char) : Option (List Char × List Char) :=
  (digits? s).filter fun (digits, _) => digits.head? != some '0' || digits.length == 1

/-- The digits after the point, if there is a point. -/
def fraction? : List Char → Option (List Char × List Char)
  | '.' :: s => digits? s
  | s => some ([], s)

/-- The integer after the mark of an exponent. -/
def power? : List Char → Option (Int × List Char)
  | '-' :: s => (digits? s).map fun (digits, s) => (-(Nat.ofDigitChars 10 digits 0 : Int), s)
  | '+' :: s => (digits? s).map fun (digits, s) => (Nat.ofDigitChars 10 digits 0, s)
  | s => (digits? s).map fun (digits, s) => (Nat.ofDigitChars 10 digits 0, s)

/-- The exponent, if there is one. -/
def exponent? : List Char → Option (Option Int × List Char)
  | 'e' :: s | 'E' :: s => (power? s).map fun (power, s) => (some power, s)
  | s => some (none, s)

/-- The number without a sign: an integer, unless it has a fraction or an exponent. -/
def unsigned? (negative : Bool) (s : List Char) : Option (Data × List Char) := do
  let (whole, s) ← whole? s
  let (fraction, s) ← fraction? s
  let (exponent, s) ← exponent? s
  let magnitude := Nat.ofDigitChars 10 (whole ++ fraction) 0
  if fraction = [] ∧ exponent = none then
    return (.int (if negative then -magnitude else magnitude), s)
  else
    return (.real (.ofDecimal negative magnitude (exponent.getD 0 - fraction.length)), s)

/-- The number in front of a text, and what follows it. -/
def number? : List Char → Option (Data × List Char)
  | '-' :: s => unsigned? true s
  | s => unsigned? false s

/-! ## Values -/

/-- The value that is no text, list or object. -/
def single? : List Char → Option (Data × List Char)
  | 'n' :: 'u' :: 'l' :: 'l' :: s => some (.null, s)
  | 't' :: 'r' :: 'u' :: 'e' :: s => some (.bool true, s)
  | 'f' :: 'a' :: 'l' :: 's' :: 'e' :: s => some (.bool false, s)
  | s => number? s

/-- The name of a field, up to its colon. -/
def name? (s : List Char) : Option (String × List Char) :=
  match skip s with
  | '"' :: s => do
    let (name, s) ← string? s
    match skip s with
    | ':' :: s => return (name, s)
    | _ => none
  | _ => none

mutual

/-- The value in front of a text, after blanks, and what follows it.  There are never more values in
a text than characters, which bounds the depth. -/
def value? : Nat → List Char → Option (Data × List Char)
  | 0, _ => none
  | depth + 1, s =>
    match skip s with
    | '"' :: s => (string? s).map fun (text, s) => (.text text, s)
    | '[' :: s =>
      match skip s with
      | ']' :: s => some (.list [], s)
      | s => (items? depth s).map fun (items, s) => (.list items, s)
    | '\x7b' :: s =>
      match skip s with
      | '\x7d' :: s => some (.object [], s)
      | s => (fields? depth s).map fun (fields, s) => (.object (Table.ofEntries fields), s)
    | s => single? s

/-- The items up to the bracket that ends a list; there is at least one. -/
def items? : Nat → List Char → Option (List Data × List Char)
  | 0, _ => none
  | depth + 1, s => do
    let (item, s) ← value? depth s
    match skip s with
    | ',' :: s =>
      let (items, s) ← items? depth s
      return (item :: items, s)
    | ']' :: s => return ([item], s)
    | _ => none

/-- The fields up to the brace that ends an object; there is at least one. -/
def fields? : Nat → List Char → Option (Fields × List Char)
  | 0, _ => none
  | depth + 1, s => do
    let (name, s) ← name? s
    let (value, s) ← value? depth s
    match skip s with
    | ',' :: s =>
      let (fields, s) ← fields? depth s
      return ((.text name, value) :: fields, s)
    | '\x7d' :: s => return ([(.text name, value)], s)
    | _ => none

end

/-- **The value that a text consists of**, blanks around it apart. -/
def read? (text : String) : Option Data :=
  match value? text.length text.toList with
  | some (value, s) => if skip s = [] then some value else none
  | none => none

/-- Blanks, escapes, a pair of surrogates and a repeated name. -/
example : (read? "\x7b\"a\" : 1, \"b\":[\"\\ud83d\\ude00\\/\\u00E9\" ,-20 ] ,\"a\":\ttrue\x7d ").map
    Data.toJson = some "\x7b\n  \"a\": true,\n  \"b\": [\n    \"😀/é\",\n    -20\n  ]\n\x7d" := by
  decide +kernel

/-- An unfinished list, a needless zero, a line feed within quotes and half a pair are refused. -/
example : ["[1,]", "01", "\"\n\"", "\"\\ud83d\"", "[1] 2"].map (fun text => (read? text).isSome) =
    [false, false, false, false, false] := by
  decide +kernel

end Json
end GuideMarkup
