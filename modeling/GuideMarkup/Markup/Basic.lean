import GuideMarkup.Data.Basic

/-!
# Markup/Basic — the markup tree of a guide step

A tree holds texts and elements; an element is its opening tag and its children in order.
-/

namespace GuideMarkup

/-- The attributes of a tag, by name. -/
abbrev Attributes := Table String String

/-- An opening tag: a name and its attributes. -/
structure Tag where
  name : String
  attributes : Attributes
deriving DecidableEq, Repr

namespace Tag

/-- The value of an attribute. -/
def attr? (tag : Tag) (name : String) : Option String :=
  tag.attributes.lookup name

/-- The value of an attribute, empty if the tag has none of that name. -/
def attr (tag : Tag) (name : String) : String :=
  (tag.attr? name).getD ""

/-- The attribute that says what an element stands for. -/
def role? (tag : Tag) : Option String :=
  tag.attr? "data-type"

end Tag

/-- A node of the markup tree. -/
inductive Markup where
  | text (value : String)
  | element (tag : Tag) (children : List Markup)
deriving Inhabited, Repr

namespace Markup

/-- The name of the element that holds a whole document. -/
def rootName : String := "#root"

/-- A document with the given content. -/
def root (children : List Markup) : Markup :=
  .element ⟨rootName, []⟩ children

/-! ## Blank paragraphs -/

/-- A paragraph without any child. -/
def isBlankParagraph : Markup → Bool
  | .text _ => false
  | .element tag children => tag.name == "p" && children.isEmpty

/-- The length of the run of blank paragraphs at the front of a list of siblings; a text between
them ends the run. -/
def blankRun (siblings : List Markup) : Nat :=
  (siblings.takeWhile isBlankParagraph).length

/-! ## Texts -/

mutual

/-- All text of a tree, in document order. -/
def allText : Markup → List Char
  | .text value => value.toList
  | .element _ children => allTextOf children

/-- All text of a list of trees. -/
def allTextOf : List Markup → List Char
  | [] => []
  | node :: rest => allText node ++ allTextOf rest

end

end Markup
end GuideMarkup
