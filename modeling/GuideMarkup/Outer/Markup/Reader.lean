import GuideMarkup.Markup.Fragment
import GuideMarkup.Outer.Markup.Token

/-!
# Outer/Markup/Reader — a parser for plain guide markup

    text  ↦  tokens  ↦  fragments

The parser that the command comes with.  Tokens are nested into fragments.  The dialect is small:
properly nested elements, four elements without content, comments and character references.  A
document that consists of nothing but a type declaration is rejected.
-/

namespace GuideMarkup
namespace Markup

/-! ## Nesting -/

/-- An element that is being read: its tag, the text before its first child, and its children so
far, last first. -/
structure Pending where
  name : String
  attributes : List (String × String)
  text : Option String
  children : List RawNode

namespace Pending

/-- A tag that has just been opened. -/
def start (name : String) (attributes : List (String × String)) : Pending :=
  ⟨name, attributes, none, []⟩

/-- The element, complete. -/
def close (pending : Pending) : RawNode :=
  .element pending.name pending.attributes pending.text pending.children.reverse none

/-- A text at the end of another one. -/
def extend (start : Option String) (more : String) : Option String :=
  some (start.getD "" ++ more)

/-- The element with a text after what it holds so far. -/
def addText (pending : Pending) (value : String) : Pending :=
  match pending.children with
  | [] => { pending with text := extend pending.text value }
  | .element name attributes inside children tail :: rest =>
    { pending with
      children := .element name attributes inside children (extend tail value) :: rest }
  | .aside inside tail :: rest =>
    { pending with children := .aside inside (extend tail value) :: rest }

/-- The element with one more child. -/
def addChild (pending : Pending) (child : RawNode) : Pending :=
  { pending with children := child :: pending.children }

end Pending

/-- The attributes without repetitions; the first of a name stays. -/
def firstOfEach (attributes : List (String × String)) : List (String × String) :=
  attributes.foldl (fun kept entry =>
    if kept.any (·.1 == entry.1) then kept else kept ++ [entry]) []

/-- The open elements closed up to and including the innermost one of the given name; an end tag
without a start tag closes nothing.  The last element of the list is the document itself. -/
def closeTo (name : String) : Pending → List Pending → Pending × List Pending
  | inner, [] => (inner, [])
  | inner, outer :: rest =>
    if inner.name = name then (outer.addChild inner.close, rest)
    else if rest.any (·.name = name) || outer.name = name then
      closeTo name (outer.addChild inner.close) rest
    else (inner, outer :: rest)

/-- The document with one more token, innermost open element first. -/
def nest : Pending × List Pending → Token → Pending × List Pending
  | (inner, outer), .text value => (inner.addText (String.ofList value), outer)
  | (inner, outer), .comment => (inner.addChild (.aside none none), outer)
  | state, .declaration => state
  | (inner, outer), .closing name => closeTo name inner outer
  | (inner, outer), .opening name attributes =>
    let opened := Pending.start name (firstOfEach attributes)
    if Token.voidNames.contains name then (inner.addChild opened.close, outer)
    else (opened, inner :: outer)

/-- All open elements closed. -/
def closeAll : Pending → List Pending → Pending
  | inner, [] => inner
  | inner, outer :: rest => closeAll (outer.addChild inner.close) rest

/-- The fragments of a document; leading text that is blank is left out. -/
def fragments (found : List Token) : List Fragment :=
  let (inner, outer) := found.foldl nest (Pending.start "" [], [])
  let document := closeAll inner outer
  let lead := (document.text.getD "")
  (if allBlank lead.toList then [] else [.text lead]) ++ document.children.reverse.map .node

/-! ## Reading -/

/-- Every line end becomes one line feed, and a null the replacement character. -/
def unify : List Char → List Char
  | [] => []
  | '\r' :: '\n' :: rest => '\n' :: unify rest
  | '\r' :: rest => '\n' :: unify rest
  | '\x00' :: rest => '\ufffd' :: unify rest
  | c :: rest => c :: unify rest

/-- The text begins with a document type declaration, blanks in front of it apart. -/
def opensWithDoctype (s : List Char) : Bool :=
  "<!doctype".toList.isPrefixOf ((trimLeft s).map Char.toLower)

/-- **The fragments of a markup text.** -/
def readFragments : Parser := fun markup =>
  let s := unify markup.toList
  let found := Token.scan s
  if opensWithDoctype s && found.all Token.isVoid then
    .error (.rejected "ParserError" "Document is empty")
  else .ok (fragments found)

end Markup
end GuideMarkup
