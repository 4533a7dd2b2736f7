import GuideMarkup.Numeral

/-!
# Outer/Markup/Reference — characters that are written as references

    &eacute;   &#233;   &#xE9;   ↦   é

A reference names a character or gives its number.  The semicolon may be missing, but in a value a
name without one is a reference only if the text does not run on.  All else stays as it is, and text
is decoded once: what a reference stands for is never read again.
-/

namespace GuideMarkup
namespace Reference

/-! ## Characters -/

/-- The characters that have a name. -/
def names : List (String × Char) :=
  [("amp", '&'), ("lt", '<'), ("gt", '>'), ("quot", '"'), ("nbsp", '\u00a0'), ("eacute", 'é')]

/-- The printable characters that stand for control codes: a number from 128 to 159 is that of the
Western code page, as far as the page has a character there. -/
def western : List (Nat × Char) :=
  [(0x80, '€'), (0x82, '‚'), (0x83, 'ƒ'), (0x84, '„'), (0x85, '…'), (0x86, '†'), (0x87, '‡'),
    (0x88, 'ˆ'), (0x89, '‰'), (0x8A, 'Š'), (0x8B, '‹'), (0x8C, 'Œ'), (0x8E, 'Ž'), (0x91, '‘'),
    (0x92, '’'), (0x93, '“'), (0x94, '”'), (0x95, '•'), (0x96, '–'), (0x97, '—'), (0x98, '˜'),
    (0x99, '™'), (0x9A, 'š'), (0x9B, '›'), (0x9C, 'œ'), (0x9E, 'ž'), (0x9F, 'Ÿ')]

/-- **The character of a number.**  A number that is no code point, or zero, gives the replacement
character. -/
def ofNumber (n : Nat) : Char :=
  if n = 0 ∨ ¬ n.isValidChar then '\ufffd' else (western.lookup n).getD (Char.ofNat n)

/-! ## Reading -/

/-- Where a text with references stands. -/
inductive Place where
  | content
  | value
deriving DecidableEq, Repr

/-- The character whose number has the given digits, and how long they are together with the `marks`
characters before them. -/
def ofDigits (base marks : Nat) (digits : List Char) : Option (Char × Nat) :=
  if digits.isEmpty then none
  else some (ofNumber (digits.foldl (fun n c => base * n + hexValue c) 0), marks + digits.length)

/-- The character that is given by its number, and the length of what gives it. -/
def numbered? : List Char → Option (Char × Nat)
  | '#' :: 'x' :: rest | '#' :: 'X' :: rest => ofDigits 16 2 (rest.takeWhile isHexDigit)
  | '#' :: rest => ofDigits 10 1 (rest.takeWhile Char.isDigit)
  | _ => none

/-- A name may end in front of the text. -/
def mayEnd : Place → List Char → Bool
  | .value, c :: _ => !(c.isAlphanum || c == '=')
  | _, _ => true

/-- The character that is given by its name, and the length of the name. -/
def named? (place : Place) (s : List Char) : Option (Char × Nat) :=
  names.findSome? fun (name, c) =>
    if name.toList.isPrefixOf s && mayEnd place (s.drop name.length) then some (c, name.length)
    else none

/-- The character of the reference that a text begins with, the `&` left off, and the length of the
reference. -/
def read? (place : Place) (s : List Char) : Option (Char × Nat) :=
  match (numbered? s).orElse fun _ => named? place s with
  | some (c, length) => some (c, if (s.drop length).head? == some ';' then length + 1 else length)
  | none => none

/-- The text with its references replaced, each once.  The first argument counts the characters
that belong to a reference already replaced. -/
def decodeFrom (place : Place) : Nat → List Char → List Char
  | _, [] => []
  | skipped + 1, _ :: rest => decodeFrom place skipped rest
  | 0, c :: rest =>
    if c = '&' then
      match read? place rest with
      | some (d, length) => d :: decodeFrom place length rest
      | none => c :: decodeFrom place 0 rest
    else c :: decodeFrom place 0 rest

/-- **The text with its references replaced.** -/
def decode (place : Place) (s : List Char) : List Char :=
  decodeFrom place 0 s

end Reference
end GuideMarkup
