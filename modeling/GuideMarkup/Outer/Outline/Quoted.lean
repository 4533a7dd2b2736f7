import GuideMarkup.Numeral
import GuideMarkup.Outer.Outline.Line

/-!
# Outer/Outline/Quoted — texts between quotes

    'it''s'   "caf\u00e9"   "one text \
                             on two lines"

Between single quotes a quote is doubled and nothing else is special; between double quotes a
backslash begins an escape.  Blanks around a line break go, and the breaks are joined.
-/

namespace GuideMarkup
namespace Outline

/-! ## Escapes -/

/-- The characters that a letter after a backslash stands for. -/
def escapes : List (Char × Char) :=
  [('0', '\x00'), ('a', '\x07'), ('b', '\x08'), ('t', '\t'), ('\t', '\t'), ('n', '\n'),
    ('v', '\x0b'), ('f', '\x0c'), ('r', '\r'), ('e', '\x1b'), (' ', ' '), ('"', '"'), ('\\', '\\'),
    ('/', '/'), ('N', '\u0085'), ('_', '\u00a0'), ('L', '\u2028'), ('P', '\u2029')]

/-- The number of hexadecimal digits after a letter that names a character by its number. -/
def codeWidth? : Char → Option Nat
  | 'x' => some 2
  | 'u' => some 4
  | 'U' => some 8
  | _ => none

/-- The character of the given number; one that only half of a character has stands for the
replacement character. -/
def ofCode (code : Nat) : Except Fault Char :=
  if 0x10FFFF < code then .error (.missing (.noCharacter code))
  else if 0xD800 ≤ code && code ≤ 0xDFFF then .ok '\uFFFD'
  else .ok (Char.ofNat code)

/-! ## Reading -/

/-- What is being read of a text between quotes. -/
inductive QuoteReading where
  /-- The text itself. -/
  | text
  /-- After a single quote between single quotes. -/
  | quote
  /-- After a backslash. -/
  | escape
  /-- In the number of a character, with so many digits to come. -/
  | code (digits value : Nat)

/-- What stands between the last word of a text and the next one. -/
structure Gap where
  /-- The blanks after the last word or break, last first. -/
  blanks : List Char
  /-- The breaks, last first. -/
  breaks : List Char
  /-- A break was escaped, so that it leaves no blank. -/
  escaped : Bool

/-- Nothing stands between the words. -/
def Gap.none : Gap := ⟨[], [], false⟩

/-- What a gap leaves in a text, last character first. -/
def Gap.text (gap : Gap) : List Char :=
  if gap.escaped then gap.breaks
  else if gap.breaks.isEmpty then gap.blanks
  else (joinLines gap.breaks).reverse

/-- **The text up to the closing quote, and what follows the quote.**  The text so far stands last
character first, and a mark between documents may not begin a line of it. -/
def quotedText (double : Bool) : QuoteReading → List Char → Gap → List Char →
    Except Fault (List Char × List Char)
  | .quote, soFar, gap, [] => .ok ((gap.text ++ soFar).reverse, [])
  | _, _, _, [] => .error .malformed
  | .quote, soFar, gap, c :: rest =>
    if c = '\'' then quotedText double .text (c :: (gap.text ++ soFar)) .none rest
    else .ok ((gap.text ++ soFar).reverse, c :: rest)
  | .escape, soFar, gap, c :: rest =>
    if isBreak c then
      if startsAnyMark rest then .error .malformed
      else quotedText double .text (gap.text ++ soFar) ⟨[], [], true⟩ rest
    else match escapes.lookup c, codeWidth? c with
      | some d, _ => quotedText double .text (d :: (gap.text ++ soFar)) .none rest
      | none, some digits => quotedText double (.code digits 0) (gap.text ++ soFar) .none rest
      | none, none => .error .malformed
  | .code digits value, soFar, gap, c :: rest =>
    if !isHexDigit c then .error .malformed
    else
      let code := 16 * value + hexValue c
      if digits ≤ 1 then do
        quotedText double .text ((← ofCode code) :: soFar) .none rest
      else quotedText double (.code (digits - 1) code) soFar gap rest
  | .text, soFar, gap, c :: rest =>
    if c = ' ' || c = '\t' then
      quotedText double .text soFar { gap with blanks := c :: gap.blanks } rest
    else if isBreak c then
      if startsAnyMark rest then .error .malformed
      else quotedText double .text soFar
        { gap with blanks := [], breaks := breakText c :: gap.breaks } rest
    else if !double && c = '\'' then quotedText double .quote soFar gap rest
    else if double && c = '"' then .ok ((gap.text ++ soFar).reverse, rest)
    else if double && c = '\\' then quotedText double .escape soFar gap rest
    else quotedText double .text (c :: (gap.text ++ soFar)) .none rest

end Outline
end GuideMarkup
