import GuideMarkup.Config.Basic
import GuideMarkup.Progress
import GuideMarkup.Transform

/-!
# Render — from markup text to an interactive tree

A renderer holds what stays the same between the steps of a session: the available guides, the
platform and the configuration.  For each step it has the markup parsed, puts the context together
from these and from the reader's progress, and transforms the document.  Markup that the parser
rejects gives a message; every other error escapes.
-/

namespace GuideMarkup

/-- What is needed to render steps. -/
structure Renderer where
  registry : Registry
  platform : Platform
  config : Config
  travelCopy : Bool
  /-- What the fields of an address may ask of a value. -/
  properties : Template.Properties

/-- What became of a step. -/
inductive Rendering where
  | tree (node : Node)
  /-- The markup was rejected, with an error of some name. -/
  | unreadable (message error : String)

/-- An error that nothing in the library answers. -/
inductive Escape where
  /-- A value cannot be used in its place. -/
  | misfit (misfit : Misfit)
  /-- Code outside of the library ended with an error of its own, by name. -/
  | foreign (name : String)
deriving DecidableEq, Repr

namespace Renderer

/-- **The context of a step.**  Boxes are checked only within a step of a guide. -/
def context (renderer : Renderer) (progress : Progress) (guide step : Option Entry)
    (disabled : Bool) : Except Misfit Context := do
  let checked ← match guide, step with
    | some guide, some step => progress.checkedAt guide step
    | _, _ => .ok []
  let whitelist ← renderer.config.whitelist
  let mapping ← renderer.config.mapping
  let links ← Links.ofFields renderer.properties (renderer.config.part .resourceLinks)
  let hiddenLinkText ← renderer.config.message "hidden_link" "hidden link"
  return {
    whitelist, guide, step, disabled, links, hiddenLinkText
    platform := renderer.platform
    registry := some renderer.registry
    checked := some checked
    mapping := some (mapping.map fun (kind, pages) => (kind, some pages))
    saved := some progress.saved
    travelCopy := renderer.travelCopy }

/-- The tree of a document that has been parsed. -/
def renderTree (renderer : Renderer) (progress : Progress) (document : Markup)
    (guide step : Option Entry) (disabled : Bool) : Except Misfit Node := do
  let ctx ← renderer.context progress guide step disabled
  return (transform Rule.standard ctx document 0).1

/-- The message about markup that the parser rejects. -/
def parseFailed (renderer : Renderer) : Except Misfit String :=
  renderer.config.message "parse_failed" "The step content could not be read."

/-- **The rendering of a step.** -/
def render (renderer : Renderer) (parser : Markup.Parser) (progress : Progress) (markup : String)
    (guide step : Option Entry) (disabled : Bool) : Except Escape Rendering :=
  match Markup.parse parser markup with
  | .ok document =>
    (renderer.renderTree progress document guide step disabled).mapError .misfit |>.map .tree
  | .error (.rejected error _) =>
    renderer.parseFailed.mapError .misfit |>.map (.unreadable · error)
  | .error (.crash name) => .error (.foreign name)

end Renderer
end GuideMarkup
