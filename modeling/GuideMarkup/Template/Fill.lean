import GuideMarkup.Data.Basic
import GuideMarkup.Template.Calendar
import GuideMarkup.Template.Number

/-!
# Template/Fill — a template with values in its fields

`Template.fill` finds the value of every field, follows the way into it, makes it a text and lays it
out.  Filling is one pass: braces inside a value are text.  The first fault from left to right wins.
-/

namespace GuideMarkup
namespace Template

/-! ## The way into a value -/

/-- One step into a value. -/
inductive Step where
  | property (name : String)
  | index (n : Nat)
  | name (s : String)

/-- What is being read of the way into a value; the text read so far stands last character
first. -/
inductive StepReading where
  | start
  | property (name : List Char)
  | member (name : List Char)

/-- The step that a text between brackets stands for. -/
def memberStep (name : List Char) : Except TemplateError Step := do
  if name.isEmpty then throw .malformed
  match ← number? name with
  | some n => return .index n
  | none => return .name (String.ofList name)

/-- The step to a property. -/
def propertyStep (name : List Char) : Except TemplateError Step :=
  if name.isEmpty then .error .malformed else .ok (.property (String.ofList name))

/-- The steps that a text describes, each of them perhaps a fault. -/
def steps : StepReading → List Char → List (Except TemplateError Step)
  | .start, [] => []
  | .property name, [] => [propertyStep name.reverse]
  | .member _, [] => [.error .malformed]
  | .start, c :: rest =>
    if c = '.' then steps (.property []) rest
    else if c = '[' then steps (.member []) rest
    else [.error .malformed]
  | .property name, c :: rest =>
    if c = '.' then propertyStep name.reverse :: steps (.property []) rest
    else if c = '[' then propertyStep name.reverse :: steps (.member []) rest
    else steps (.property (c :: name)) rest
  | .member name, c :: rest =>
    if c = ']' then memberStep name.reverse :: steps .start rest
    else steps (.member (c :: name)) rest

/-- The numbers of a moment, by name. -/
def momentNumbers (m : Moment) : List (String × Nat) :=
  [("year", m.day.year), ("month", m.day.month), ("day", m.day.day)] ++
    match m.clock with
    | none => []
    | some clock =>
      [("hour", clock.hour), ("minute", clock.minute), ("second", clock.second),
        ("microsecond", clock.micro), ("fold", 0)]

/-- What the properties of values are, by name.  Every value has properties that are no plain values;
such a one is taken for its text. -/
abbrev Properties := Data → String → Option Data

/-- The properties that are plain values: the numbers of a moment, and a number as a fraction and as
a complex number. -/
def plainProperties (value : Data) (name : String) : Option Data :=
  match value with
  | .int n => [("real", n), ("imag", 0), ("numerator", n), ("denominator", 1)].lookup name
      |>.map Data.int
  | .bool b =>
    let n : Int := if b then 1 else 0
    [("real", n), ("imag", 0), ("numerator", n), ("denominator", 1)].lookup name |>.map Data.int
  | .real x => [("real", x), ("imag", .zero)].lookup name |>.map Data.real
  | .moment m => (momentNumbers m).lookup name |>.map fun n => .int n
  | _ => none

/-- Something that must be there. -/
def require {α : Type} (error : TemplateError) : Option α → Except TemplateError α
  | some found => .ok found
  | none => .error error

variable (properties : Properties)

/-- The value one step further on. -/
def follow (value : Data) : Step → Except TemplateError Data
  | .property name => require .noProperty (properties value name)
  | .index n =>
    match value with
    | .text s => require .outOfRange (s.toList[n]?.map fun c => .text (String.singleton c))
    | .bytes bs => require .outOfRange (bs[n]?.map Data.ofByte)
    | .pair first second => require .outOfRange [first, second][n]?
    | .list items => require .outOfRange items[n]?
    | .object fields => require .noField (fields.lookup (.int n))
    | _ => .error .noMembers
  | .name s =>
    match value with
    | .object fields => require .noField (fields.lookup (.text s))
    | _ => .error .noMembers

/-- The value at the end of the way. -/
def followAll (value : Data) : List (Except TemplateError Step) → Except TemplateError Data
  | [] => .ok value
  | step :: rest => do followAll (← follow properties value (← step)) rest

/-! ## Fields -/

/-- The values of a template, by name. -/
abbrev Values := List (String × Data)

/-- The end of the name of a value, in a path. -/
def endsName (c : Char) : Bool :=
  c == '.' || c == '['

/-- The value of the given name; a number names none. -/
def named (values : Values) (name : List Char) : Except TemplateError Data := do
  if name.isEmpty || (← number? name).isSome then throw .positional
  match values.lookup (String.ofList name) with
  | some value => return value
  | none => throw (.unknown name)

/-- The value that a path leads to. -/
def valueAt (values : Values) (path : List Char) : Except TemplateError Data := do
  let value ← named values (path.takeWhile (!endsName ·))
  followAll properties value (steps .start (path.dropWhile (!endsName ·)))

/-- The value in the form that is asked for: its text, or how it is shown inside another value. -/
def inForm (value : Data) : Option Char → Except TemplateError Data
  | none | some '\x00' => .ok value
  | some 's' => do return .text (← require .overlong value.display?)
  | some 'r' => do return .text (String.ofList (← shown value))
  | some 'a' => do return .text (String.ofList (Quoted.ascii (← shown value)))
  | some _ => .error .malformed
where
  shown (value : Data) : Except TemplateError (List Char) :=
    if value.isWritable then .ok value.shown else .error .overlong

/-- The value laid out. -/
def laidOut (layout : List Char) : Data → Except TemplateError (List Char)
  | .text s => Layout.ofText s.toList layout
  | .int n => Layout.ofInt n layout
  | .real x => Layout.ofReal x layout
  | .moment m => .ok (Calendar.layOut m layout)
  | .bool b =>
    if layout.isEmpty then .ok (Data.boolName b).toList
    else Layout.ofInt (if b then 1 else 0) layout
  | value =>
    if layout.isEmpty then do return (← require .overlong value.display?).toList
    else .error .noLayout

/-- What a field becomes, where `expand` fills the fields of a layout. -/
def fillField (values : Values) (expand : List Char → Except TemplateError (List Char))
    (field : TemplateField) : Except TemplateError (List Char) := do
  let value ← inForm (← valueAt properties values field.path) field.form
  let layout ← if field.nested then expand field.layout else .ok field.layout
  laidOut layout value

/-! ## Templates -/

/-- What the parts become; the first fault wins. -/
def fillParts (fill : TemplateField → Except TemplateError (List Char)) :
    List TemplatePart → Except TemplateError (List Char)
  | [] => .ok []
  | .literal c :: rest => do return c :: (← fillParts fill rest)
  | .field field :: rest => do
    let front ← fill field
    let back ← fillParts fill rest
    return front ++ back

/-- A template filled, where layouts may be templates down to the given depth. -/
def fillWithin (values : Values) : Nat → List Char → Except TemplateError (List Char)
  | 0, _ => .error .malformed
  | depth + 1, template => do
    let (found, sound) := parts .literal template
    let text ← fillParts (fillField properties values (fillWithin values depth)) found
    if sound then return text else throw .malformed

/-- **The template with the values in its fields.**  The layout of a field may have fields, whose
layouts may not. -/
def fill (values : Values) (template : String) : Except TemplateError String := do
  return String.ofList (← fillWithin properties values 2 template.toList)

end Template

end GuideMarkup
