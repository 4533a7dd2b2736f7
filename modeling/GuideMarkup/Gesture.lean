import GuideMarkup.Guide
import GuideMarkup.Node.Basic

/-!
# Gesture — which intents a gesture on a node emits

An intent is a command to the host, as plain data.  `intents` is the table of gestures; what is
disabled emits nothing.
-/

namespace GuideMarkup

/-- A command to the host. -/
inductive Intent where
  | copy (text : String)
  | openUrl (url : String)
  | viewImage (url : String) (title : Option String)
  | navigate (guide step : Int)
  | download (guide : Int)
  | toggle (guide step index : Int)
deriving DecidableEq, Repr

/-! ## Intents by content -/

namespace CrossLink

/-- A link to another guide leads there, after a download if the guide is not available.  While an
activation is going on it emits nothing. -/
def intents (cross : CrossLink) : List Intent :=
  if cross.pending then []
  else (if cross.needsDownload then [.download cross.link.guide] else []) ++
    [.navigate cross.link.guide cross.link.step]

end CrossLink

namespace ResourceTag

/-- The intent to open the database page, when its key is held and there is a page. -/
def openDatabase (tag : ResourceTag) (opens : Bool) : Option Intent :=
  if opens then (tag.databaseUrl.filter (!·.isEmpty)).map .openUrl else none

/-- The intent to open the alternate page, if there is one. -/
def openMapped (tag : ResourceTag) : List Intent :=
  ((tag.mappedUrl.filter (!·.isEmpty)).map .openUrl).toList

/-- A resource opens its alternate page with Alt, its database page with the database key, and
copies its name otherwise. -/
def intents (tag : ResourceTag) (keys : Modifiers) (platform : Platform) : List Intent :=
  if keys.alt && tag.kind.isMapped then tag.openMapped
  else [(tag.openDatabase (platform.opensDatabase keys)).getD (.copy tag.name)]

end ResourceTag

namespace Checkbox

/-- A box that belongs to a step of a guide, both of them numbered, toggles itself. -/
def intents (box : Checkbox) : List Intent :=
  match box.interactive, box.guide, box.step with
  | true, some (.number guide), some (.number step) => [.toggle guide step box.index]
  | _, _, _ => []

end Checkbox

/-! ## Intents of a node -/

namespace Content

/-- The content has a gesture, and is not disabled. -/
def isActivatable : Content → Bool
  | .position token => !token.disabled
  | .sameGuide link => !link.disabled
  | .crossGuide cross => !cross.link.disabled
  | .resource tag => !tag.disabled
  | .image ref => !ref.disabled
  | .anchor link => !link.disabled
  | .checkbox _ => true
  | _ => false

/-- The intents of a content, its disabling left aside. -/
def gesture (keys : Modifiers) (platform : Platform) : Content → List Intent
  | .position token => [.copy token.copyText]
  | .sameGuide link => [.navigate link.guide link.step]
  | .crossGuide cross => cross.intents
  | .resource tag => tag.intents keys platform
  | .image ref => if ref.clickable then [.viewImage ref.src ref.caption] else []
  | .anchor link => if link.external then [.openUrl link.href] else []
  | .checkbox box => box.intents
  | _ => []

/-- **The intents that a gesture emits, in order.** -/
def intents (content : Content) (keys : Modifiers) (platform : Platform) : List Intent :=
  if content.isActivatable then content.gesture keys platform else []

end Content
end GuideMarkup
