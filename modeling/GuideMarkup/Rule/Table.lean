import GuideMarkup.Markup.Fragment
import GuideMarkup.Navigation
import GuideMarkup.Rule.Basic
import GuideMarkup.Text.Blank
import GuideMarkup.Url.Trust

/-!
# Rule/Table — the rules and their order

Each rule decides about one element (`Rule.decide`); of several rules the first that does not
decline has its way (`decide`).
-/

namespace GuideMarkup

/-- The rules.  The last one is for trying out failures: it always fails, after a full visit. -/
inductive Rule where
  | blankParagraph
  | guideStep
  | customTag
  | questBlock
  | image
  | anchor
  | taskParagraph
  | checkbox
  | broken
deriving DecidableEq, Repr

/-! ## Blank paragraphs -/

/-- Of a run of blank paragraphs only the last one breaks the line. -/
def decideBlankParagraph (site : Site) : Decision :=
  if (Markup.element site.tag site.children).isBlankParagraph then
    if Markup.blankRun site.following = 0 then .leaf .lineBreak else .leaf .dropped
  else .decline

/-! ## Links to steps -/

/-- The integer at the front of an attribute. -/
def Tag.int? (tag : Tag) (name : String) : Except Fault (Option Int) :=
  match tag.attr? name with
  | none => .ok none
  | some value => (leadingInt? value).mapError fun _ => .overlongNumber

/-- The step that an element refers to. -/
def Context.reference? (ctx : Context) (tag : Tag) : Except Fault (Option StepTarget) := do
  let guide ← tag.int? "guideid"
  let number ← tag.int? "stepnumber"
  match guide, number with
  | some guide, some number => ctx.stepTarget? guide number (← tag.int? "stepid")
  | _, _ => return none

/-- The source holds the marker, which must be a text. -/
def holdsMarker (marker : Data) (src : String) : Except Fault Bool :=
  match marker with
  | .text s => .ok (occursIn s.toList src.toList)
  | _ => .error .notText

/-- A child is an image whose source holds the marker; the first such child decides. -/
def hasMarkedImage (marker : Data) : List Markup → Except Fault Bool
  | [] => .ok false
  | .text _ :: rest => hasMarkedImage marker rest
  | .element tag _ :: rest =>
    if tag.name != "img" then hasMarkedImage marker rest
    else do
      if ← holdsMarker marker (tag.attr "src") then return true else hasMarkedImage marker rest

/-- The content of a link to a step. -/
def Context.linkContent (ctx : Context) (target : StepTarget) (defaultIcon : Bool) : Content :=
  let link := ⟨target.guide, target.step, defaultIcon, ctx.disabled⟩
  if target.sameGuide then .sameGuide link
  else .crossGuide ⟨link, target.needsDownload, false, none⟩

/-- A reference to a step becomes a link with all its children, if it leads anywhere. -/
def decideGuideStep (ctx : Context) (site : Site) : Decision :=
  if site.tag.role? != some "guide-step" then .decline
  else match ctx.reference? site.tag with
    | .error fault => .fail fault
    | .ok none => .decline
    | .ok (some target) =>
      match hasMarkedImage ctx.links.iconMarker site.children with
      | .error fault => .fail fault
      | .ok marked => .wrap (ctx.linkContent target !marked)

/-! ## Resources and quests -/

/-- A resource of a known kind becomes a tag; its first child draws the icon. -/
def decideCustomTag (ctx : Context) (site : Site) : Decision :=
  if site.tag.role? != some "custom-tag" then .decline
  else match ResourceKind.ofMarkup? (site.tag.attr "type") with
    | none => .decline
    | some kind => .render .first fun icon => do
      return .mk (.resource (← ctx.resourceTag site.tag kind)) icon

/-- A quest block keeps all its children. -/
def decideQuestBlock (site : Site) : Decision :=
  if site.tag.role? != some "quest-block" then .decline else .wrap (.quest site.tag.questBlock)

/-! ## Images and anchors -/

/-- An image is shown without children. -/
def decideImage (ctx : Context) (site : Site) : Decision :=
  if site.tag.name != "img" then .decline
  else .render .nothing fun _ => do
    return Node.leaf (.image (← ctx.links.image ctx.disabled site.tag))

/-- An anchor keeps its children; one that leads to an untrusted origin loses everything else. -/
def decideAnchor (ctx : Context) (site : Site) : Decision :=
  if site.tag.name != "a" then .decline
  else
    let href := site.tag.attr "href"
    .render .all fun nodes => do
      if ← ctx.distrusts href then return Node.group nodes
      else return .mk (.anchor ⟨href, isWebUrl href, ctx.disabled⟩) nodes

/-! ## Task lists -/

/-- The tags around an element are those of the content of a task item. -/
def inTaskItem : List Tag → Bool
  | div :: li :: _ => div.name == "div" && li.name == "li" && li.role? == some "taskItem"
  | _ => false

/-- The paragraph of a task item is shown without its own line. -/
def decideTaskParagraph (site : Site) : Decision :=
  if site.tag.name == "p" && inTaskItem site.ancestors then .wrap .flattened else .decline

/-- The element is a checkbox; its type is written in any case. -/
def Tag.isCheckbox (tag : Tag) : Bool :=
  tag.name == "input" && lower (tag.attr "type").toList == "checkbox".toList

/-- The checkbox of the given number. -/
def Context.checkbox (ctx : Context) (index : Int) : Except Fault Checkbox := do
  if ctx.hasStep then
    return ⟨index, ← ctx.isChecked index, !ctx.disabled, ctx.guide, ctx.step⟩
  else return ⟨index, false, false, none, none⟩

/-- A checkbox takes the next number. -/
def decideCheckbox (ctx : Context) (site : Site) : Decision :=
  if site.tag.isCheckbox then .number fun index => do
    return Node.leaf (.checkbox (← ctx.checkbox index))
  else .decline

/-! ## The table -/

/-- A marked element is visited in full, and then the rule fails. -/
def decideBroken (site : Site) : Decision :=
  if site.tag.role? == some "broken" then .render .all fun _ => .error .broken else .decline

namespace Rule

/-- What a rule decides about an element. -/
def decide (ctx : Context) (site : Site) : Rule → Decision
  | .blankParagraph => decideBlankParagraph site
  | .guideStep => decideGuideStep ctx site
  | .customTag => decideCustomTag ctx site
  | .questBlock => decideQuestBlock site
  | .image => decideImage ctx site
  | .anchor => decideAnchor ctx site
  | .taskParagraph => decideTaskParagraph site
  | .checkbox => decideCheckbox ctx site
  | .broken => decideBroken site

/-- The rules of every rendering, in order. -/
def standard : List Rule :=
  [.blankParagraph, .guideStep, .customTag, .questBlock, .image, .anchor, .taskParagraph,
    .checkbox]

/-- **What the first rule decides that does not decline.** -/
def decideAll (ctx : Context) (site : Site) : List Rule → Decision
  | [] => .decline
  | rule :: rest =>
    match rule.decide ctx site with
    | .decline => decideAll ctx site rest
    | taken => taken

end Rule
end GuideMarkup
