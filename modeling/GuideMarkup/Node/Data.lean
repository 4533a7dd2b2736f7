import GuideMarkup.Data.Json
import GuideMarkup.Node.Basic

/-!
# Node/Data — interactive trees as plain data

A node becomes an object: its kind first, then its own fields, then its children if it has any.
-/

namespace GuideMarkup

namespace Data

/-- A text that may be missing. -/
def ofText? : Option String → Data
  | some s => .text s
  | none => .null

/-- An entry that may be missing. -/
def ofEntered : Option Entry → Data
  | some entry => entry.toData
  | none => .null

/-- Texts by name. -/
def ofTexts (entries : List (String × String)) : Data :=
  .object (entries.map fun (name, value) => (.text name, .text value))

end Data

namespace Content

/-- The name of the kind of node. -/
def kindName : Content → String
  | .plain .. => "PlainPassthrough"
  | .hiddenLink _ => "HiddenLinkPlaceholder"
  | .lineBreak => "LineBreak"
  | .dropped => "Dropped"
  | .bare => "InteractiveNode"
  | .flattened => "FlattenedParagraph"
  | .position _ => "PositionToken"
  | .sameGuide _ => "SameGuideStepLink"
  | .crossGuide _ => "CrossGuideStepLink"
  | .resource _ => "ResourceTag"
  | .quest _ => "QuestStatusBlock"
  | .image _ => "ImageRef"
  | .anchor _ => "ExternalAnchor"
  | .checkbox _ => "Checkbox"

/-- The fields of the content, in order. -/
def fields : Content → Fields
  | .plain name attributes value =>
    [("tag", .ofText? name), ("attributes", .ofTexts attributes), ("text", .ofText? value)]
  | .hiddenLink message => [("message", .text message)]
  | .lineBreak | .dropped | .bare | .flattened => []
  | .position token =>
    [("x", .int token.x), ("y", .int token.y), ("copy_text", .text token.copyText),
      ("disabled", .bool token.disabled)]
  | .sameGuide link =>
    [("target_guide_id", .int link.guide), ("target_step", .int link.step),
      ("show_default_icon", .bool link.defaultIcon), ("disabled", .bool link.disabled)]
  | .crossGuide cross =>
    [("target_guide_id", .int cross.link.guide), ("target_step", .int cross.link.step),
      ("needs_download", .bool cross.needsDownload),
      ("show_default_icon", .bool cross.link.defaultIcon), ("disabled", .bool cross.link.disabled),
      ("pending", .bool cross.pending), ("error", .ofText? cross.error)]
  | .resource tag =>
    [("resource_kind", .text tag.kind.name), ("name", .text tag.name),
      ("external_id", .ofText? tag.externalId), ("database_url", .ofText? tag.databaseUrl),
      ("mapped_url", .ofText? tag.mappedUrl), ("title", .text tag.title),
      ("disabled", .bool tag.disabled)]
  | .quest block =>
    [("quest_name", .text block.name), ("status", .ofText? (block.status.map QuestStatus.name))]
  | .image ref =>
    [("src", .text ref.src), ("clickable", .bool ref.clickable), ("alt", .ofText? ref.alt),
      ("title", .ofText? ref.title), ("is_icon", .bool ref.isIcon),
      ("proxied", .bool ref.proxied), ("disabled", .bool ref.disabled)]
  | .anchor link =>
    [("href", .text link.href), ("external", .bool link.external),
      ("disabled", .bool link.disabled)]
  | .checkbox box =>
    [("index", .int box.index), ("checked", .bool box.checked),
      ("interactive", .bool box.interactive), ("guide_id", .ofEntered box.guide),
      ("step_index", .ofEntered box.step)]

end Content

namespace Node

mutual

/-- **The tree as plain data.** -/
def toData : Node → Data
  | .mk content [] => .object (("kind", .text content.kindName) :: content.fields)
  | .mk content (child :: rest) =>
    .object (("kind", .text content.kindName) :: (content.fields ++
      [(Key.text "children", .list (toData child :: toDataAll rest))]))

/-- The trees of a list as plain data. -/
def toDataAll : List Node → List Data
  | [] => []
  | node :: rest => toData node :: toDataAll rest

end

end Node
end GuideMarkup
