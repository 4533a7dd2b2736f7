import GuideMarkup.Data.Basic

/-!
# Data/Json — values written as indented JSON

Every item and field stands on a line of its own, two blanks deeper than what it belongs to; empty
lists and objects stay on one line.  Characters outside ASCII are written as they are.  A value that
JSON has no form for is written as its text.
-/

namespace GuideMarkup
namespace Json

/-! ## Texts -/

/-- How one character stands in a JSON text. -/
def escape (c : Char) : List Char :=
  if c = '"' then ['\\', '"']
  else if c = '\\' then ['\\', '\\']
  else if c = '\n' then ['\\', 'n']
  else if c = '\r' then ['\\', 'r']
  else if c = '\t' then ['\\', 't']
  else if c = '\u0008' then ['\\', 'b']
  else if c = '\u000c' then ['\\', 'f']
  else if c.toNat < 0x20 then '\\' :: 'u' :: hex 4 c.toNat
  else [c]

/-- A text between double quotes. -/
def quote (s : String) : List Char :=
  '"' :: s.toList.flatMap escape ++ ['"']

/-- The name of a field: a key that is no text is named as the value is written. -/
def fieldName : Key → String
  | .null => "null"
  | .bool b => if b then "true" else "false"
  | key => key.display

/-- The start of a field, up to its value. -/
def fieldStart (key : Key) : List Char :=
  quote (fieldName key) ++ [':', ' ']

/-! ## Values -/

/-- The start of a line at the given depth. -/
def newline (depth : Nat) : List Char :=
  '\n' :: List.replicate (2 * depth) ' '

mutual

/-- The value written at the given depth. -/
def write (depth : Nat) : Data → List Char
  | .null => "null".toList
  | .bool b => (if b then "true" else "false").toList
  | .int n => (toString n).toList
  | .real x => x.display
  | .text s => quote s
  | .list [] => ['[', ']']
  | .list (item :: rest) =>
    '[' :: newline (depth + 1) ++ write (depth + 1) item ++ writeItems (depth + 1) rest ++
      newline depth ++ [']']
  | .object [] => ['\x7b', '\x7d']
  | .object ((key, value) :: rest) =>
    '\x7b' :: newline (depth + 1) ++ fieldStart key ++ write (depth + 1) value ++
      writeFields (depth + 1) rest ++ newline depth ++ ['\x7d']
  | other => quote other.display

/-- The items after the first one, each with the comma before it. -/
def writeItems (depth : Nat) : List Data → List Char
  | [] => []
  | item :: rest => ',' :: newline depth ++ write depth item ++ writeItems depth rest

/-- The fields after the first one, each with the comma before it. -/
def writeFields (depth : Nat) : List (Key × Data) → List Char
  | [] => []
  | (key, value) :: rest =>
    ',' :: newline depth ++ fieldStart key ++ write depth value ++
      writeFields depth rest

end

end Json

/-- The value as indented JSON. -/
def Data.toJson (value : Data) : String :=
  String.ofList (Json.write 0 value)

/-- **The value as indented JSON, if it can be written.** -/
def Data.toJson? (value : Data) : Option String :=
  if value.isWritable then some value.toJson else none

end GuideMarkup
