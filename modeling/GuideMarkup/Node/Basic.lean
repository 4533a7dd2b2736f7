import GuideMarkup.Data.Basic
import GuideMarkup.Markup.Basic
import GuideMarkup.Node.Kind

/-!
# Node/Basic — the interactive tree

A node is its content and its children.  The content says what the node does when it is activated
and what a host needs to draw it; the children are complete nodes.
-/

namespace GuideMarkup

/-! ## Contents -/

/-- A coordinate that can be copied. -/
structure PositionToken where
  x : Int
  y : Int
  copyText : String
  disabled : Bool
deriving DecidableEq, Repr

/-- A link to a step of a guide. -/
structure StepLink where
  guide : Int
  step : Int
  defaultIcon : Bool
  disabled : Bool
deriving DecidableEq, Repr

/-- A link to a step of another guide, with the state of its last activation. -/
structure CrossLink where
  link : StepLink
  needsDownload : Bool
  pending : Bool
  error : Option String
deriving DecidableEq, Repr

/-- A game resource; its children draw its icon. -/
structure ResourceTag where
  kind : ResourceKind
  name : String
  externalId : Option String
  databaseUrl : Option String
  mappedUrl : Option String
  title : String
  disabled : Bool
deriving DecidableEq, Repr

/-- A block about one quest. -/
structure QuestBlock where
  name : String
  status : Option QuestStatus
deriving DecidableEq, Repr

/-- An image: an icon in the text, or a picture that can be viewed. -/
structure ImageRef where
  src : String
  clickable : Bool
  alt : Option String
  title : Option String
  isIcon : Bool
  proxied : Bool
  disabled : Bool
deriving DecidableEq, Repr

/-- A link that was kept. -/
structure Anchor where
  href : String
  external : Bool
  disabled : Bool
deriving DecidableEq, Repr

/-- A numbered checkbox; without guide and step it cannot be toggled. -/
structure Checkbox where
  index : Int
  checked : Bool
  interactive : Bool
  guide : Option Entry
  step : Option Entry
deriving DecidableEq, Repr

/-- What a node is. -/
inductive Content where
  /-- Content that is shown as it is: an element, a text, or a group of nodes. -/
  | plain (name : Option String) (attributes : Attributes) (value : Option String)
  | hiddenLink (message : String)
  | lineBreak
  | dropped
  /-- A node without any meaning of its own. -/
  | bare
  | flattened
  | position (token : PositionToken)
  | sameGuide (link : StepLink)
  | crossGuide (link : CrossLink)
  | resource (tag : ResourceTag)
  | quest (block : QuestBlock)
  | image (image : ImageRef)
  | anchor (anchor : Anchor)
  | checkbox (box : Checkbox)
deriving DecidableEq, Repr

/-- The status colour of a quest block. -/
def QuestBlock.indicator (block : QuestBlock) : Option String :=
  block.status.bind QuestStatus.indicator

/-- The text shown with an image: its alternative text, or else its title. -/
def ImageRef.caption (image : ImageRef) : Option String :=
  match image.alt with
  | some alt => if alt.isEmpty then image.title else some alt
  | none => image.title

/-! ## Nodes -/

/-- A node of the interactive tree. -/
inductive Node where
  | mk (content : Content) (children : List Node)
deriving Repr

namespace Node

/-- What the node is. -/
def content : Node → Content
  | .mk content _ => content

/-- The children of the node. -/
def children : Node → List Node
  | .mk _ children => children

/-- A node without children. -/
def leaf (content : Content) : Node :=
  .mk content []

/-- A text that is shown as it is. -/
def text (value : String) : Node :=
  leaf (.plain none [] (some value))

/-- A group of nodes without an element of its own. -/
def group (children : List Node) : Node :=
  .mk (.plain none [] none) children

/-- An element that is shown as it is. -/
def element (tag : Tag) (children : List Node) : Node :=
  .mk (.plain (some tag.name) tag.attributes none) children

/-! ## Walking -/

mutual

/-- **The node and its descendants**, each before its children, in document order. -/
def walk : Node → List Node
  | .mk content children => .mk content children :: walkAll children

/-- The nodes of all trees of a list. -/
def walkAll : List Node → List Node
  | [] => []
  | node :: rest => walk node ++ walkAll rest

end

/-! ## Places -/

/-- The place in a list that an index means; a negative one counts from the end. -/
def place? (length : Nat) (index : Int) : Option Nat :=
  if 0 ≤ index then if index < length then some index.toNat else none
  else if 0 ≤ index + length then some (index + length).toNat else none

/-- The node at the end of a path of child indices. -/
def at? : Node → List Int → Option Node
  | node, [] => some node
  | node, index :: path =>
    (place? node.children.length index).bind fun i =>
      node.children[i]?.bind fun child => child.at? path

/-- The tree with the content at the end of a path replaced; a path that leads nowhere changes
nothing. -/
def setContent (content : Content) : Node → List Int → Node
  | .mk _ children, [] => .mk content children
  | .mk own children, index :: path =>
    match place? children.length index with
    | none => .mk own children
    | some i => .mk own (children.modify i fun child => child.setContent content path)

end Node
end GuideMarkup
