import GuideMarkup.Outer.Outline.Calendar
import GuideMarkup.Outer.Outline.Number
import GuideMarkup.Outer.Outline.Tag

/-!
# Outer/Outline/Kind — what a value is to be

    word   12   true   2001-12-14   "quoted text"   !!str 12

A tag says of what kind a value is.  Without one, a text with quotes is a text, and one without is
a reserved word, a number or a moment if it is written like that.
-/

namespace GuideMarkup
namespace Outline

/-- What a value is to be. -/
inductive Kind where
  | null
  | bool
  | int
  | real
  | text
  | bytes
  | moment
  | list
  | pairs
  | set
  | map
  /-- As a key: the fields of its value belong to the map around it. -/
  | merge
  /-- As a key: its value is what the map around it stands for as a text. -/
  | equal
  /-- No value is of this kind. -/
  | unknown
deriving DecidableEq, Repr, BEq

namespace Kind

/-- The kinds of the standard tags. -/
def standard : List (String × Kind) :=
  [("null", .null), ("bool", .bool), ("int", .int), ("float", .real), ("str", .text),
    ("binary", .bytes), ("timestamp", .moment), ("seq", .list), ("omap", .pairs),
    ("pairs", .pairs), ("set", .set), ("map", .map), ("merge", .merge), ("value", .equal)]

/-- The beginning of the standard tags. -/
def standardBeginning : List Char := "tag:yaml.org,2002:".toList

/-- **The kind that a tag stands for.** -/
def ofTag (tag : List Char) : Kind :=
  if standardBeginning.isPrefixOf tag then
    (standard.lookup (String.ofList (tag.drop standardBeginning.length))).getD .unknown
  else .unknown

/-- A word in small letters, with a capital, and in capitals. -/
def spellings (word : String) : List String :=
  [word, word.capitalize, word.toUpper]

/-- The words for truth values. -/
def truths : List (String × Bool) :=
  [("yes", true), ("no", false), ("true", true), ("false", false), ("on", true), ("off", false)]

/-- A text stands for a truth value, in some spelling. -/
def isTruth (s : String) : Bool :=
  truths.any fun (word, _) => (spellings word).contains s

/-- A text that is not empty stands for null. -/
def isNullWord (s : String) : Bool :=
  s == "~" || (spellings "null").contains s

/-- The text without a break at its end, which does not count. -/
def withoutLastBreak (s : List Char) : List Char :=
  if s.getLast? = some '\n' then s.dropLast else s

/-- **The kind of a text without a tag and without quotes.** -/
def ofText (text : List Char) : Kind :=
  let chars := withoutLastBreak text
  let s := String.ofList chars
  if text.isEmpty then .null
  else if isTruth s then .bool
  else if isNullWord s then .null
  else if isReal chars then .real
  else if isInteger chars then .int
  else if isMoment chars then .moment
  else if s = "<<" then .merge
  else if s = "=" then .equal
  else if s = "!" || s = "&" || s = "*" then .unknown
  else .text

/-- The kind of a text; the tag of a single exclamation mark takes its quotes away. -/
def ofScalar (tag : Option (List Char)) (text : List Char) (plain : Bool) : Kind :=
  match tag with
  | none => if plain then ofText text else .text
  | some ['!'] => ofText text
  | some tag => ofTag tag

/-- The kind of a list or a map, which is of the given kind without a tag. -/
def ofGroup (tag : Option (List Char)) (untagged : Kind) : Kind :=
  match tag with
  | none | some ['!'] => untagged
  | some tag => ofTag tag

/-- Values of the kind have parts of their own. -/
def isGroup : Kind → Bool
  | .list | .pairs | .set | .map => true
  | _ => false

end Kind
end Outline
end GuideMarkup
