import GuideMarkup.Markup.Fragment

/-!
# Markup/Linked — the markup tree as it is linked together

    parent  ◂──  node  ──▸  next sibling
                  │
                  ▾
               children

The nodes of the linked tree know the element around them and the sibling after them.  They are made
one after the other and called by their numbers.  `Cells.append` puts a node under a parent;
`Cells.ofFragments` builds a whole document in this way, and an element is put under its parent only
when everything in it has been made.
-/

namespace GuideMarkup

/-- What a node is, its links left aside. -/
inductive Label where
  | text (value : String)
  | element (tag : Tag)
deriving DecidableEq, Repr

/-- A node with its links, which are numbers of other nodes. -/
structure Cell where
  label : Label
  children : List Nat
  parent : Option Nat
  next : Option Nat
deriving DecidableEq, Repr

/-- The nodes made so far; the number of a node says how many were made before it. -/
abbrev Cells := List Cell

/-- A node that has just been made. -/
def Cell.fresh (label : Label) : Cell :=
  ⟨label, [], none, none⟩

namespace Cells

/-- The last child of a node. -/
def lastChild? (cells : Cells) (parent : Nat) : Option Nat :=
  (cells[parent]?).bind fun cell => cell.children.getLast?

/-- The node follows the last child of the parent, if there is one. -/
def follow (cells : Cells) (parent child : Nat) : Cells :=
  match cells.lastChild? parent with
  | some last => cells.modify last fun cell => { cell with next := some child }
  | none => cells

/-- **The child is put under the parent**, after the children that are there. -/
def append (cells : Cells) (parent child : Nat) : Cells :=
  let held := (cells.follow parent child).modify child fun cell =>
    { cell with parent := some parent, next := none }
  held.modify parent fun cell => { cell with children := cell.children ++ [child] }

/-! ## Documents -/

/-- The text put under the parent, unless it is missing or empty. -/
def addText (parent : Nat) (text : Option String) (cells : Cells) : Cells :=
  match text with
  | none => cells
  | some value =>
    if value.isEmpty then cells
    else (cells ++ [Cell.fresh (.text value)]).append parent cells.length

mutual

/-- The raw node put under the parent, and the text after it. -/
def addRaw (parent : Nat) (raw : RawNode) (cells : Cells) : Cells :=
  match raw with
  | .element name attributes inside children tail =>
    let tag : Tag := ⟨Markup.lowerName name, Markup.lowerAttributes attributes⟩
    let opened := addText cells.length inside (cells ++ [Cell.fresh (.element tag)])
    let made := addRaws cells.length children opened
    addText parent tail (made.append parent cells.length)
  | .aside _ tail => addText parent tail cells

/-- The raw nodes put under the parent, in order. -/
def addRaws (parent : Nat) (raws : List RawNode) (cells : Cells) : Cells :=
  match raws with
  | [] => cells
  | raw :: rest => addRaws parent rest (addRaw parent raw cells)

end

/-- The fragment put under the parent. -/
def addFragment (parent : Nat) : Fragment → Cells → Cells
  | .text value => addText parent (some value)
  | .node raw => addRaw parent raw

/-- **The document that the fragments make up**, linked together; its first node is the root. -/
def ofFragments (fragments : List Fragment) : Cells :=
  fragments.foldl (fun cells fragment => addFragment 0 fragment cells)
    [Cell.fresh (.element ⟨Markup.rootName, []⟩)]

end Cells
end GuideMarkup
