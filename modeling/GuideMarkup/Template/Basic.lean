import GuideMarkup.Numeral

/-!
# Template/Basic — texts with named fields between braces

    https://one.example/{lang}/{id:>6}     a doubled brace stands for one brace

A field names a value, may lead into it, may ask for another form of it, and may say how it is laid
out.  `Template.parts` takes a template apart; it reads every character once, and the reading is a
small machine whose states are `Template.Reading`.
-/

namespace GuideMarkup

/-- Why a template cannot be filled. -/
inductive TemplateError where
  /-- A brace or a bracket stands alone, or a field is written in no known way. -/
  | malformed
  /-- A field has no name, or a number for a name. -/
  | positional
  /-- A field has no value. -/
  | unknown (name : List Char)
  /-- A number in the template is too large. -/
  | largeNumber
  /-- A value does not have the property that a field asks for. -/
  | noProperty
  /-- A value has no member at an index. -/
  | outOfRange
  /-- An object has no field of the asked name. -/
  | noField
  /-- A value has no members, or none that are asked for in this way. -/
  | noMembers
  /-- A value cannot be laid out as asked. -/
  | layout
  /-- A value cannot be laid out at all. -/
  | noLayout
  /-- A number is too large to be laid out as asked. -/
  | tooLarge
  /-- An integer is too long to be written. -/
  | overlong
  /-- A field is too wide to be filled. -/
  | tooWide
deriving DecidableEq, Repr

/-- A field of a template, as it is written. -/
structure TemplateField where
  /-- The name of a value, and the way into it. -/
  path : List Char
  /-- The letter of the form that is asked for. -/
  form : Option Char
  /-- How the value is laid out. -/
  layout : List Char
  /-- The layout holds fields of its own. -/
  nested : Bool
deriving DecidableEq, Repr

/-- A part of a template. -/
inductive TemplatePart where
  | literal (c : Char)
  | field (field : TemplateField)
deriving DecidableEq, Repr

namespace Template

/-! ## Parts -/

/-- What is being read.  Texts read so far stand last character first. -/
inductive Reading where
  | literal
  /-- After a closing brace outside of all fields. -/
  | closing
  /-- In a path, perhaps between brackets. -/
  | path (path : List Char) (bracketed : Bool)
  /-- After the mark of a form. -/
  | form (path : List Char)
  /-- After a form. -/
  | afterForm (path : List Char) (form : Char)
  /-- In a layout with so many braces open. -/
  | layout (path : List Char) (form : Option Char) (braces : Nat) (nested : Bool)
    (layout : List Char)

/-- The parts with one more in front. -/
def before (part : TemplatePart) (parts : List TemplatePart × Bool) : List TemplatePart × Bool :=
  (part :: parts.1, parts.2)

/-- The field that has been read. -/
def fieldPart (path : List Char) (form : Option Char) (layout : List Char) (nested : Bool) :
    TemplatePart :=
  .field ⟨path.reverse, form, layout.reverse, nested⟩

/-- **The parts of a template**, up to the first fault, and whether there was none. -/
def parts : Reading → List Char → List TemplatePart × Bool
  | .literal, [] => ([], true)
  | _, [] => ([], false)
  | .literal, c :: rest =>
    if c = '{' then parts (.path [] false) rest
    else if c = '}' then parts .closing rest
    else before (.literal c) (parts .literal rest)
  | .closing, c :: rest =>
    if c = '}' then before (.literal '}') (parts .literal rest) else ([], false)
  | .path path true, c :: rest => parts (.path (c :: path) (c != ']')) rest
  | .path path false, c :: rest =>
    if c = '{' then
      if path.isEmpty then before (.literal '{') (parts .literal rest) else ([], false)
    else if c = '}' then before (fieldPart path none [] false) (parts .literal rest)
    else if c = ':' then parts (.layout path none 0 false []) rest
    else if c = '!' then parts (.form path) rest
    else parts (.path (c :: path) (c == '[')) rest
  | .form path, c :: rest => parts (.afterForm path c) rest
  | .afterForm path form, c :: rest =>
    if c = '}' then before (fieldPart path (some form) [] false) (parts .literal rest)
    else if c = ':' then parts (.layout path (some form) 0 false []) rest
    else ([], false)
  | .layout path form braces nested layout, c :: rest =>
    if c = '{' then parts (.layout path form (braces + 1) true (c :: layout)) rest
    else if c = '}' then
      match braces with
      | 0 => before (fieldPart path form layout nested) (parts .literal rest)
      | more + 1 => parts (.layout path form more nested (c :: layout)) rest
    else parts (.layout path form braces nested (c :: layout)) rest

/-! ## Numbers -/

/-- The largest number that is read in a template. -/
def largest : Nat := 0x7FFFFFFFFFFFFFFF

/-- The number that goes on with the digits at the front of a text, and the text after them. -/
def takeDigits : Nat → List Char → Except TemplateError (Nat × List Char)
  | n, [] => .ok (n, [])
  | n, c :: rest =>
    match digitValue? c with
    | none => .ok (n, c :: rest)
    | some d => if (largest - d) / 10 < n then .error .largeNumber else takeDigits (10 * n + d) rest

/-- The number at the front of a text, if there is one, and the text after it. -/
def takeNumber (s : List Char) : Except TemplateError (Option Nat × List Char) :=
  if s.head?.any isDecimal then do
    let (n, rest) ← takeDigits 0 s
    return (some n, rest)
  else .ok (none, s)

/-- The number that a text is, if it is one. -/
def number? (s : List Char) : Except TemplateError (Option Nat) := do
  let (n, rest) ← takeNumber s
  return if rest.isEmpty then n else none

end Template

end GuideMarkup
