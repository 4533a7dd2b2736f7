import GuideMarkup.Numeral
import GuideMarkup.Outer.Outline.Line

/-!
# Outer/Outline/Tag — what is said of a value, and of a document

    !!set {a, b}      !e!thing x      %TAG !e! tag:one.example,2000:

A tag says of what kind the value after it is.  It may begin with a handle between exclamation
marks, which stands for the beginning of the tag; directives in front of a document say what its
handles stand for.
-/

namespace GuideMarkup
namespace Outline

/-- A tag as it is written: a handle, unless the tag is written out, and the text after it. -/
structure WrittenTag where
  handle : Option (List Char)
  text : List Char
deriving DecidableEq, Repr

/-- What is said of a document. -/
inductive Directive where
  /-- The version of the notation. -/
  | version (major minor : Nat)
  /-- What a handle stands for. -/
  | handle (name text : List Char)
  /-- Anything else, which counts for nothing. -/
  | other
deriving DecidableEq, Repr

/-! ## Tags -/

/-- Nothing, a space or a break comes next. -/
def endsTag : List Char → Bool
  | [] => true
  | c :: _ => c == ' ' || isBreak c

/-- A character of a tag. -/
def isTagChar (c : Char) : Bool :=
  c.isAlphanum || "-;/?:@&=+$,_.!~*'()[]%".toList.contains c

/-- The text so far, last first, with the characters that escaped bytes encode. -/
def withEscaped (bytes : List UInt8) (soFar : List Char) : Except Fault (List Char) :=
  match String.fromUTF8? ⟨bytes.reverse.toArray⟩ with
  | some s => .ok (s.toList.reverse ++ soFar)
  | none => .error .malformed

/-- The characters of a tag at the front, and what follows them; after a percent sign two digits
give a byte of the encoding.  The text so far and the bytes after it stand last first. -/
def takeTagChars (bytes : List UInt8) (soFar : List Char) :
    List Char → Except Fault (List Char × List Char)
  | [] => do return ((← withEscaped bytes soFar).reverse, [])
  | '%' :: a :: b :: rest =>
    if isHexDigit a && isHexDigit b then
      takeTagChars (UInt8.ofNat (16 * hexValue a + hexValue b) :: bytes) soFar rest
    else .error .malformed
  | c :: rest =>
    if c = '%' then .error .malformed
    else if isTagChar c then do takeTagChars [] (c :: (← withEscaped bytes soFar)) rest
    else do return ((← withEscaped bytes soFar).reverse, c :: rest)

/-- The text of a tag, of which there must be some, and what follows it. -/
def readTagText (s : List Char) : Except Fault (List Char × List Char) :=
  if s.head?.any isTagChar then takeTagChars [] [] s else .error .malformed

/-- A handle after its first exclamation mark, and what follows it: in front of a space the mark is
a handle of its own. -/
def readHandle (s : List Char) : Except Fault (List Char × List Char) :=
  if s.head? = some ' ' then .ok (['!'], s)
  else match s.dropWhile isNameChar with
    | '!' :: rest => .ok ('!' :: s.takeWhile isNameChar ++ ['!'], rest)
    | _ => .error .malformed

/-- A tag after its exclamation mark, and what follows it. -/
def takeTag (s : List Char) : Except Fault (WrittenTag × List Char) :=
  match s with
  | '<' :: written => do
    let (text, rest) ← readTagText written
    match rest with
    | '>' :: rest => return (⟨none, text⟩, rest)
    | _ => throw .malformed
  | _ =>
    if endsWord s then .ok (⟨none, ['!']⟩, s)
    else do
      let (handle, rest) ←
        if (s.takeWhile fun c => c != ' ' && !isBreak c).contains '!' then readHandle s
        else .ok (['!'], s)
      let (text, rest) ← readTagText rest
      return (⟨some handle, text⟩, rest)

/-- **A tag after its exclamation mark, and what follows it**, which is no part of a word. -/
def readTag (s : List Char) : Except Fault (WrittenTag × List Char) := do
  let (tag, rest) ← takeTag s
  if endsTag rest then return (tag, rest) else throw .malformed

/-! ## Directives -/

/-- The text without the spaces in front of it. -/
def skipSpaces (s : List Char) : List Char :=
  s.dropWhile (· == ' ')

/-- A number of a version, and what follows it. -/
def readVersionNumber (s : List Char) : Except Fault (Nat × List Char) :=
  let digits := s.takeWhile Char.isDigit
  if digits.isEmpty then .error .malformed
  else if Numeral.maxDigits < digits.length then .error (.missing .noNumber)
  else .ok (Numeral.magnitude (digits.map hexValue), s.drop digits.length)

/-- A version, and what follows it. -/
def readVersion (s : List Char) : Except Fault (Directive × List Char) := do
  let (major, rest) ← readVersionNumber (skipSpaces s)
  match rest with
  | '.' :: rest =>
    let (minor, rest) ← readVersionNumber rest
    if endsTag rest then return (.version major minor, rest) else throw .malformed
  | _ => throw .malformed

/-- What a handle stands for, and what follows it. -/
def readHandleMeaning (s : List Char) : Except Fault (Directive × List Char) :=
  match skipSpaces s with
  | '!' :: rest => do
    let (name, rest) ← readHandle rest
    if rest.head? != some ' ' then throw .malformed
    let (text, rest) ← readTagText (skipSpaces rest)
    if endsTag rest then return (.handle name text, rest) else throw .malformed
  | _ => .error .malformed

/-- **A directive after its percent sign, and what follows its line.** -/
def readDirective (s : List Char) : Except Fault (Directive × List Char) := do
  let name := String.ofList (s.takeWhile isNameChar)
  let rest := s.dropWhile isNameChar
  if name.isEmpty || !endsTag rest then throw .malformed
  let (directive, rest) ←
    if name = "YAML" then readVersion rest
    else if name = "TAG" then readHandleMeaning rest
    else .ok (.other, rest.dropWhile (!isBreak ·))
  match afterLine? rest with
  | some after => return (directive, after)
  | none => throw .malformed

end Outline
end GuideMarkup
