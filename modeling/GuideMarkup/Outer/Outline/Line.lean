import GuideMarkup.Data.Basic

/-!
# Outer/Outline/Line — the characters of an outline, its line breaks, and texts without quotes

An outline is a text whose structure shows in its indentation.  Only the ASCII space indents; the
line breaks include those of Unicode, and every other blank is text.
-/

namespace GuideMarkup

namespace Outline

/-- The character ends a line. -/
def isBreak (c : Char) : Bool :=
  c == '\n' || c == '\r' || c == '\u0085' || c == '\u2028' || c == '\u2029'

/-- The character may stand in an outline. -/
def isPrintable (c : Char) : Bool :=
  c == '\t' || c == '\n' || c == '\r' || (' ' ≤ c && c ≤ '~') || c == '\u0085' ||
    (0xA0 ≤ c.toNat && c.toNat ≤ 0xFFFD) || 0x10000 ≤ c.toNat

/-- The text with one kind of break for the ends of lines of all systems. -/
def withPlainBreaks : List Char → List Char
  | '\r' :: '\n' :: rest => '\n' :: withPlainBreaks rest
  | '\r' :: rest => '\n' :: withPlainBreaks rest
  | c :: rest => c :: withPlainBreaks rest
  | [] => []

/-- Nothing, a blank or a break comes next. -/
def endsWord : List Char → Bool
  | [] => true
  | c :: _ => c == ' ' || c == '\t' || isBreak c

/-- A mark of three characters that starts or ends a document comes next. -/
def startsMark (mark : Char) : List Char → Bool
  | a :: b :: c :: rest => a == mark && b == mark && c == mark && endsWord rest
  | _ => false

/-- A mark between documents comes next. -/
def startsAnyMark (s : List Char) : Bool :=
  startsMark '-' s || startsMark '.' s

/-- The character that a break leaves in a text. -/
def breakText (c : Char) : Char :=
  if c == '\u2028' || c == '\u2029' then c else '\n'

/-- What the breaks between two words, last first, leave in a text: a single break is a blank, and
of several the first goes. -/
def joinLines (breaks : List Char) : List Char :=
  match breaks.reverse with
  | [] => []
  | first :: more =>
    if first != '\n' then first :: more else if more.isEmpty then [' '] else more

/-- What follows a line on which nothing stands but blanks and a comment. -/
def afterLine? (s : List Char) : Option (List Char) :=
  let rest := s.dropWhile (· == ' ')
  let rest := if rest.head? == some '#' then rest.dropWhile (!isBreak ·) else rest
  match rest with
  | [] => some []
  | c :: after => if isBreak c then some after else none

/-- A character of a short name. -/
def isNameChar (c : Char) : Bool :=
  c.isAlphanum || c == '-' || c == '_'

/-- Why an outline cannot be read. -/
inductive Fault where
  | malformed
  /-- A text stands for no value of the kind that it should. -/
  | missing (why : NoValue)
deriving DecidableEq, Repr

end Outline

/-! ## Texts without quotes

A plain text goes on until something that ends it: a comment, a colon at the end of a word, a tab,
a line that is not indented enough, or, between brackets, a bracket, a comma or a question mark.
The breaks and blanks at its end do not belong to it. -/

namespace Outline

/-- A plain text with what follows it. -/
structure PlainText where
  text : List Char
  rest : List Char
  /-- What follows is on a later line. -/
  crossed : Bool

/-- A character that ends a plain text between brackets. -/
def endsBracketed (c : Char) : Bool :=
  c == ',' || c == '?' || c == '[' || c == ']' || c == '{' || c == '}'

/-- A character that comes after a colon which ends a text between brackets. -/
def endsBracketedColon : List Char → Bool
  | [] => false
  | c :: _ => c == ',' || c == '[' || c == ']' || c == '{' || c == '}'

/-- The character ends a plain text, wherever it stands. -/
def endsPlain (bracketed : Bool) (c : Char) (rest : List Char) : Bool :=
  c == '\t' || (c == ':' && (endsWord rest || (bracketed && endsBracketedColon rest))) ||
    (bracketed && endsBracketed c)

/-- **The plain text at the front**, where `indent` is the least indentation of its lines.  The text
so far and the breaks after it stand last first; `blanks` counts the spaces after these. -/
def plainText (bracketed : Bool) (indent : Nat) :
    List Char → List Char → Nat → List Char → PlainText
  | soFar, breaks, _, [] => ⟨soFar.reverse, [], !breaks.isEmpty⟩
  | soFar, breaks, blanks, c :: rest =>
    let between := 0 < blanks || !breaks.isEmpty
    if c = ' ' then plainText bracketed indent soFar breaks (blanks + 1) rest
    else if isBreak c then
      if startsAnyMark rest then ⟨soFar.reverse, rest, true⟩
      else plainText bracketed indent soFar (breakText c :: breaks) 0 rest
    else if endsPlain bracketed c rest || (between && c == '#') ||
        (!breaks.isEmpty && !bracketed && decide (blanks < indent)) then
      ⟨soFar.reverse, c :: rest, !breaks.isEmpty⟩
    else
      let gap := if breaks.isEmpty then List.replicate blanks ' ' else joinLines breaks
      plainText bracketed indent (c :: (gap.reverse ++ soFar)) [] 0 rest

end Outline

end GuideMarkup
