import GuideMarkup.Coordinate.Scan
import GuideMarkup.Rule.Table

/-!
# Transform — from the markup tree to the interactive tree

    text     ↦  hidden link · plain text · group of plain texts and coordinates
    element  ↦  what the rules decide, or the element itself around its transformed children

The walk goes through the tree in document order and carries two counts (`Pass`): the next checkbox
number and the number of failures.  A failing rule costs its element the rule's result and nothing
else: the count of boxes goes back to where it was, and the children are visited once more.
-/

namespace GuideMarkup

/-- The counts that a walk carries. -/
structure Pass where
  /-- The number of the next checkbox. -/
  next : Int
  /-- The failures so far. -/
  fallbacks : Nat
deriving DecidableEq, Repr

/-- The counts at the start of a document. -/
def Pass.start (next : Int) : Pass := ⟨next, 0⟩

/-! ## Texts -/

/-- The nodes for a plain text; an empty one needs none. -/
def plainNodes (text : List Char) : List Node :=
  if text.isEmpty then [] else [Node.text (String.ofList text)]

/-- The token of a coordinate. -/
def Context.positionToken (ctx : Context) (found : Coordinate) : PositionToken :=
  ⟨found.x, found.y, copyText found.x found.y ctx.travelCopy, ctx.disabled⟩

/-- The nodes for a piece of a text. -/
def pieceNodes (ctx : Context) : Piece → List Node
  | .plain text => plainNodes text
  | .coordinate found =>
    plainNodes found.lead ++ Node.leaf (.position (ctx.positionToken found)) ::
      plainNodes found.tail

/-- The node for a text, if no table is missing: an untrusted address is hidden, and coordinates
become tokens. -/
def textNode (ctx : Context) (value : String) : Except Fault Node := do
  if ← ctx.hides value then return Node.leaf (.hiddenLink ctx.hiddenLinkText)
  else match split? value.toList with
    | none => return Node.text value
    | some found => return Node.group (found.flatMap (pieceNodes ctx))

/-- **The node for a text**; a failure leaves the text as it is. -/
def transformText (ctx : Context) (value : String) (pass : Pass) : Node × Pass :=
  match textNode ctx value with
  | .ok node => (node, pass)
  | .error _ => (Node.text value, { pass with fallbacks := pass.fallbacks + 1 })

/-! ## Elements -/

/-- A decision carried out, where `visit` transforms the children in scope. -/
def Decision.run (visit : Scope → Pass → List Node × Pass) (pass : Pass) :
    Decision → Except Fault (Option Node) × Pass
  | .decline => (.ok none, pass)
  | .fail fault => (.error fault, pass)
  | .render scope build =>
    let (nodes, after) := visit scope pass
    ((build nodes).map some, after)
  | .number build => ((build pass.next).map some, { pass with next := pass.next + 1 })

mutual

/-- **The image of a node**, where `ancestors` are the tags around it and `following` are the
siblings after it. -/
def transformNode (rules : List Rule) (ctx : Context) (ancestors : List Tag)
    (following : List Markup) : Markup → Pass → Node × Pass
  | .text value, pass => transformText ctx value pass
  | .element tag children, pass =>
    let visit (scope : Scope) (before : Pass) : List Node × Pass :=
      match scope with
      | .nothing => ([], before)
      | .first => transformFirst rules ctx (tag :: ancestors) children before
      | .all => transformAll rules ctx (tag :: ancestors) children before
    let decision := Rule.decideAll ctx ⟨tag, children, ancestors, following⟩ rules
    match decision.run visit pass with
    | (.ok (some node), after) => (node, after)
    | (.ok none, _) =>
      let (nodes, after) := transformAll rules ctx (tag :: ancestors) children pass
      (Node.element tag nodes, after)
    | (.error _, failed) =>
      let (nodes, after) := transformAll rules ctx (tag :: ancestors) children
        ⟨pass.next, failed.fallbacks + 1⟩
      (Node.element tag nodes, after)

/-- The image of the first node of a list of siblings. -/
def transformFirst (rules : List Rule) (ctx : Context) (ancestors : List Tag) :
    List Markup → Pass → List Node × Pass
  | [], pass => ([], pass)
  | node :: rest, pass =>
    let (image, after) := transformNode rules ctx ancestors rest node pass
    ([image], after)

/-- The images of all nodes of a list of siblings, in order. -/
def transformAll (rules : List Rule) (ctx : Context) (ancestors : List Tag) :
    List Markup → Pass → List Node × Pass
  | [], pass => ([], pass)
  | node :: rest, pass =>
    let (image, middle) := transformNode rules ctx ancestors rest node pass
    let (images, after) := transformAll rules ctx ancestors rest middle
    (image :: images, after)

end

/-- **The interactive tree of a document**, and the counts at its end. -/
def transform (rules : List Rule) (ctx : Context) (document : Markup) (next : Int) : Node × Pass :=
  transformNode rules ctx [] [] document (Pass.start next)

/-- The rules tried on one element by itself, its children being transformed by the standard rules:
the node of the first rule that does not decline. -/
def dispatch (rules : List Rule) (ctx : Context) (tag : Tag) (children : List Markup) (next : Int) :
    Except Fault (Option Node) × Pass :=
  let visit (scope : Scope) (before : Pass) : List Node × Pass :=
    match scope with
    | .nothing => ([], before)
    | .first => transformFirst Rule.standard ctx [tag] children before
    | .all => transformAll Rule.standard ctx [tag] children before
  (Rule.decideAll ctx ⟨tag, children, [], []⟩ rules).run visit (Pass.start next)

end GuideMarkup
