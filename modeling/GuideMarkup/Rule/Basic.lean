import GuideMarkup.Guide
import GuideMarkup.Node.Basic
import GuideMarkup.Url.Trust

/-!
# Rule/Basic — what a rule sees, what it may decide, and what it builds

A rule looks at one element in its place and decides, before any child has been visited: it
declines, it fails, or it says which children it shows and how the node is built from them.  The
walk over the tree is none of its business.

An image is a picture if one of its classes is a size class, and an icon otherwise.  Pictures from
the web can be viewed; images of some hosts are fetched by the host program.
-/

namespace GuideMarkup

/-- An element in its place. -/
structure Site where
  tag : Tag
  children : List Markup
  /-- The tags around the element, innermost first. -/
  ancestors : List Tag
  /-- The siblings after the element. -/
  following : List Markup

/-- Which children of an element are shown. -/
inductive Scope where
  | nothing
  | first
  | all
deriving DecidableEq, Repr

/-- What a rule decides about an element. -/
inductive Decision where
  /-- Another rule may have it. -/
  | decline
  /-- The rule fails before it has visited any child. -/
  | fail (fault : Fault)
  /-- The children in scope are visited, and the node is built from what they become. -/
  | render (scope : Scope) (build : List Node → Except Fault Node)
  /-- The next checkbox number is taken, and the node is built from it. -/
  | number (build : Int → Except Fault Node)

namespace Decision

/-- A node without children. -/
def leaf (content : Content) : Decision :=
  .render .nothing fun _ => .ok (Node.leaf content)

/-- A node with the images of all children. -/
def wrap (content : Content) : Decision :=
  .render .all fun nodes => .ok (.mk content nodes)

end Decision

/-! ## Images -/

/-- The classes of an element. -/
def Tag.classes (tag : Tag) : List String :=
  (words (tag.attr "class").toList).map String.ofList

/-- Some text is in both lists. -/
def shares (needles haystack : List String) : Bool :=
  needles.any haystack.contains

/-- The host is the given one, or a subdomain of it. -/
def isWithin (host parent : String) : Bool :=
  host == parent || (('.' :: parent.toList).isSuffixOf host.toList)

namespace Links

/-- The host is within the one that a value names. -/
def isWithinNamed (host : String) : Data → Except Fault Bool
  | .text parent => .ok (isWithin host parent)
  | _ => .error .notText

/-- The host is within one of those that the values name, where the first that it is within
decides. -/
def isWithinAny (host : String) : List Data → Except Fault Bool
  | [] => .ok false
  | value :: rest => do
    if ← isWithinNamed host value then return true else isWithinAny host rest

/-- The host program fetches images from the source. -/
def proxies (links : Links) (src : String) : Except Fault Bool :=
  match hostOf src with
  | none => .ok false
  | some host => isWithinAny host links.proxyHosts

/-- **How an image is shown.** -/
def image (links : Links) (disabled : Bool) (tag : Tag) : Except Fault ImageRef := do
  let src := tag.attr "src"
  let isIcon := !shares (links.sizeClasses.filterMap Data.text?) tag.classes
  return {
    src, isIcon, disabled
    clickable := !isIcon && isWebUrl src
    alt := tag.attr? "alt"
    title := tag.attr? "title"
    proxied := ← links.proxies src }

end Links

/-! ## Resources and quests -/

/-- The identifier of a resource of the given kind in its database. -/
def Tag.externalId? (tag : Tag) (kind : ResourceKind) : Option String :=
  tag.attr? (if kind = .foreignItem then "wakfuid" else "dofusdbid")

/-- The text, unless it is empty. -/
def nonEmpty? (s : Option String) : Option String :=
  s.filter (!·.isEmpty)

namespace Links

/-- The part of an address that stands for a kind: as configured, or the name of the kind. -/
def segment (links : Links) (kind : ResourceKind) : Data :=
  (links.segments.lookup (.text kind.name)).getD (.text kind.name)

/-- An address template, filled in. -/
def fill (links : Links) (values : List (String × Data)) : Data → Except Fault String
  | .text template => (Template.fill links.properties values template).mapError .template
  | _ => .error .notTemplate

/-- The address template of a kind, filled in. -/
def fillAddress (links : Links) (kind : ResourceKind) (lang id : String) : Except Fault String :=
  links.fill [("lang", .text lang), ("segment", links.segment kind), ("id", .text id)]
    links.databaseTemplate

/-- The address of an item of the second game. -/
def fillForeign (links : Links) (id : String) : Except Fault String :=
  links.fill [("id", .text id)] links.foreignTemplate

end Links

namespace Context

/-- **The database address of a resource.**  The database speaks the language of the guide being
read, so only the second game's items have an address outside of an available guide. -/
def databaseUrl (ctx : Context) (kind : ResourceKind) (id : Option String) :
    Except Fault (Option String) :=
  match nonEmpty? id with
  | none => .ok none
  | some id =>
    if kind = .foreignItem then do return some (← ctx.links.fillForeign id)
    else do
      match ← ctx.language? with
      | none => return none
      | some lang => return some (← ctx.links.fillAddress kind lang id)

/-- **The tag of a resource.** -/
def resourceTag (ctx : Context) (tag : Tag) (kind : ResourceKind) : Except Fault ResourceTag := do
  let id := tag.externalId? kind
  let mappedUrl ← if kind.isMapped then ctx.mappedPage kind.name id else .ok none
  let databaseUrl ← ctx.databaseUrl kind id
  return {
    kind
    name := tag.attr "name"
    externalId := nonEmpty? id
    databaseUrl
    mappedUrl
    title := kind.title ctx.platform.isMac
    disabled := ctx.disabled }

end Context

/-- The block of a quest. -/
def Tag.questBlock (tag : Tag) : QuestBlock where
  name := tag.attr "questname"
  status := QuestStatus.ofMarkup? (tag.attr "status")

end GuideMarkup
