import GuideMarkup.Activation
import GuideMarkup.Render

/-!
# Session — one reader at work

A session joins a renderer, the reader's progress and the tree on the screen.  Rendering replaces
the tree, activating a node may change progress and the node's content, and everything else goes
through the parts.
-/

namespace GuideMarkup

/-- A reader at work. -/
structure Session where
  renderer : Renderer
  progress : Progress
  messages : Messages
  /-- The tree on the screen. -/
  tree : Option Node

/-- Why a path leads to no node. -/
inductive PathError where
  /-- There is no tree on the screen. -/
  | noTree
  /-- A node on the way has no such child. -/
  | outOfRange
deriving DecidableEq, Repr

namespace Session

/-- A session with nothing read and nothing on the screen. -/
def start (renderer : Renderer) (messages : Messages) : Session :=
  ⟨renderer, .empty, messages, none⟩

/-! ## Progress and guides -/

/-- The session with a box toggled. -/
def toggle (session : Session) (guide step index : Int) : Session :=
  { session with progress := session.progress.toggle guide step index }

/-- The session with the reader moved to a step. -/
def setStep (session : Session) (guide step : Int) : Session :=
  { session with progress := session.progress.setStep guide step }

/-- The session with a guide made available. -/
def register (session : Session) (guide : Int) (info : GuideInfo) : Session :=
  { session with
    renderer.registry := session.renderer.registry.insert guide info }

/-! ## Rendering -/

/-- The context of a step at this moment. -/
def context (session : Session) (guide step : Option Int) (disabled : Bool) :
    Except Misfit Context :=
  session.renderer.context session.progress (guide.map .number) (step.map .number) disabled

/-- The session after a step was rendered from its markup. -/
def render (session : Session) (parser : Markup.Parser) (markup : String)
    (guide step : Option Int) (disabled : Bool) : Except Escape (Rendering × Session) := do
  let rendering ← session.renderer.render parser session.progress markup (guide.map .number)
    (step.map .number) disabled
  let tree := match rendering with
    | .tree node => some node
    | .unreadable .. => none
  return (rendering, { session with tree })

/-- The session after a document was transformed. -/
def transform (session : Session) (document : Markup) (guide step : Option Int) (disabled : Bool) :
    Except Misfit (Node × Session) := do
  let node ← session.renderer.renderTree session.progress document (guide.map .number)
    (step.map .number) disabled
  return (node, { session with tree := some node })

/-! ## Activating -/

/-- The node on the screen at the end of a path, if there is a tree. -/
def nodeAt (session : Session) (path : List Int) : Except PathError (Option Node) :=
  match session.tree with
  | none => if path.isEmpty then .ok none else .error .noTree
  | some tree =>
    match tree.at? path with
    | some node => .ok (some node)
    | none => .error .outOfRange

/-- **The session after a node was activated**, where the handler works on the reader's progress
and on a state of its own.  Of an activation that a host's error ended there is no outcome, but the
session goes on. -/
def activate {σ : Type} (session : Session) (path : List Int) (keys : Modifiers)
    (handler : Handler (Progress × σ)) (state : σ) :
    Except PathError (Except HandlerError Outcome × Content × Session × σ) := do
  match ← session.nodeAt path with
  | none => throw .noTree
  | some node =>
    let (outcome, content, progress, last) :=
      GuideMarkup.activate session.messages session.renderer.platform handler node.content keys
        (session.progress, state)
    let tree := session.tree.map fun tree => tree.setContent content path
    return (outcome, content, { session with progress, tree }, last)

end Session
end GuideMarkup
