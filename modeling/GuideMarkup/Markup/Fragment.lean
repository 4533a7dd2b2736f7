import GuideMarkup.Markup.Basic
import GuideMarkup.Text.Lower

/-!
# Markup/Fragment — markup in which text hangs on the element before it

    text  ──parser──▸  fragments  ↦  tree

A parser of markup delivers fragments: an element holds the text up to its first child, and every
node carries the text that follows it, its *tail*.  `Markup.ofFragments` makes texts nodes of their
own, in document order, lower-cases all names, and leaves asides (comments and instructions) out,
though never their tails.

The parser is not the library's: `Markup.parse` takes any.
-/

namespace GuideMarkup

/-- A node with the texts that hang on it. -/
inductive RawNode where
  | element (name : String) (attributes : List (String × String)) (text : Option String)
      (children : List RawNode) (tail : Option String)
  | aside (text : Option String) (tail : Option String)
deriving Inhabited, Repr

/-- A part of a document: text in front of all nodes, or a node. -/
inductive Fragment where
  | text (value : String)
  | node (raw : RawNode)
deriving Inhabited, Repr

namespace RawNode

/-- The text after the node. -/
def tail : RawNode → Option String
  | .element _ _ _ _ tail => tail
  | .aside _ tail => tail

end RawNode

namespace Markup

/-- A name in small letters. -/
def lowerName (name : String) : String :=
  String.ofList (lower name.toList)

/-- The attributes with their names in small letters; of two that become one the later wins. -/
def lowerAttributes (attributes : List (String × String)) : Attributes :=
  Table.ofEntries (attributes.map fun (name, value) => (lowerName name, value))

/-- The text node for a text that may be missing or empty. -/
def ofText : Option String → List Markup
  | none => []
  | some value => if value.isEmpty then [] else [.text value]

mutual

/-- The nodes that a raw node becomes, its tail included. -/
def ofRaw : RawNode → List Markup
  | .element name attributes inside children tail =>
    .element ⟨lowerName name, lowerAttributes attributes⟩ (ofText inside ++ ofRaws children) ::
      ofText tail
  | .aside _ tail => ofText tail

/-- The nodes that a list of raw nodes becomes. -/
def ofRaws : List RawNode → List Markup
  | [] => []
  | raw :: rest => ofRaw raw ++ ofRaws rest

end

/-- The nodes that one fragment becomes. -/
def ofFragment : Fragment → List Markup
  | .text value => ofText (some value)
  | .node raw => ofRaw raw

/-- **The document that the fragments make up.** -/
def ofFragments (fragments : List Fragment) : Markup :=
  root (fragments.flatMap ofFragment)

/-! ## Parsing -/

/-- Why a parser delivers no fragments. -/
inductive ParserError where
  /-- It rejects the markup, with an error of some name and wording. -/
  | rejected (name wording : String)
  /-- It ends with any other error; that is no verdict on the markup. -/
  | crash (name : String)
deriving DecidableEq, Repr

/-- A parser of markup. -/
abbrev Parser := String → Except ParserError (List Fragment)

/-- **The document of a markup text**, where a blank text is an empty document whatever the parser
makes of it. -/
def parse (parser : Parser) (markup : String) : Except ParserError Markup :=
  if allBlank markup.toList then .ok (root []) else (parser markup).map ofFragments

end Markup
end GuideMarkup
