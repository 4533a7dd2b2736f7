import GuideMarkup.Config.Packaged
import GuideMarkup.Guide

/-!
# Config/Basic — the configuration of an installation

Every part starts from its packaged content and is overridden, field by field, by the file that the
user keeps for it.  A file that cannot be read changes nothing; a file whose content is no object
makes loading fail, unless it counts as nothing, and so does a value that does not exist.  The
readers below turn a part into what the library works with, and fail where a part holds something of
the wrong shape.
-/

namespace GuideMarkup

/-- What a user's file holds. -/
inductive UserFile where
  | unreadable
  | holds (value : Data)
  /-- A value in it does not exist, which makes loading fail. -/
  | failing (misfit : Misfit)

/-- The parts of a configuration. -/
structure Config where
  part : Section → Fields

namespace Config

/-- The configuration without any override. -/
def packaged : Config := ⟨Section.packaged⟩

/-! ## Loading -/

/-- A part with the content of a user's file put over it. -/
def override (fields : Fields) : Option UserFile → Except Misfit Fields
  | none => .ok fields
  | some .unreadable => .ok fields
  | some (.failing misfit) => .error misfit
  | some (.holds value) => do return fields.update (← value.entries)

/-- **The configuration under the user's files**; the first part that cannot be overridden makes it
fail. -/
def load (files : Section → Option UserFile) : Except Misfit Config := do
  let whitelist ← override Section.whitelist.packaged (files .whitelist)
  let resourceLinks ← override Section.resourceLinks.packaged (files .resourceLinks)
  let resourceMapping ← override Section.resourceMapping.packaged (files .resourceMapping)
  let messages ← override Section.messages.packaged (files .messages)
  let logging ← override Section.logging.packaged (files .logging)
  return ⟨fun
    | .whitelist => whitelist
    | .resourceLinks => resourceLinks
    | .resourceMapping => resourceMapping
    | .messages => messages
    | .logging => logging⟩

/-! ## Whitelist -/

/-- An origin without slashes at its end. -/
def trimOrigin (origin : String) : String :=
  String.ofList (origin.toList.reverse.dropWhile (· == '/')).reverse

/-- The trusted origin that one entry gives. -/
def originEntry : Data → Except Misfit String
  | .text origin => .ok (trimOrigin origin)
  | .bytes _ => .error .notText
  | _ => .error .wrongShape

/-- **The trusted origins.** -/
def whitelist (config : Config) : Except Misfit (List String) := do
  let entries ← (((config.part .whitelist).named? "origins").getD .null).members
  entries.mapM originEntry

/-! ## Mapping -/

/-- A text that can be made unless an integer in it is too long. -/
def written : Option String → Except Misfit String
  | some text => .ok text
  | none => .error .overlong

/-- A page, by its identifier, both as texts. -/
def page (field : Key × Data) : Except Misfit (String × String) := do
  return (← written field.1.display?, ← written field.2.display?)

/-- The pages of one kind: every page as a text, by identifier. -/
def pages (value : Data) : Except Misfit (Table String String) :=
  if value.isVoid then .ok []
  else match value with
    | .object fields => do return Table.ofEntries (← fields.mapM page)
    | _ => .error .wrongShape

/-- **The pages of the alternate site**, by kind and identifier. -/
def mapping (config : Config) : Except Misfit (Table Key (Table String String)) :=
  (config.part .resourceMapping).mapM fun (kind, value) => do return (kind, ← pages value)

/-! ## Messages -/

/-- **The message of the given name**, or a default. -/
def message (config : Config) (name default : String) : Except Misfit String :=
  match (config.part .messages).named? name with
  | some value => written value.display?
  | none => .ok default

end Config

/-! ## Links -/

namespace Links

/-- The value of a field; a field that counts as nothing leaves the standard. -/
def fieldOr (fields : Fields) (name : String) (standard : Data) : Data :=
  ((fields.named? name).bind Data.nonVoid?).getD standard

/-- The members of a field, which are single values; a field that counts as nothing leaves the
standard. -/
def singlesOr (fields : Fields) (name : String) (standard : List Data) :
    Except Misfit (List Data) :=
  match (fields.named? name).bind Data.nonVoid? with
  | none => .ok standard
  | some value => value.singles

/-- **The links that a part of the configuration describes**; what it leaves out is standard. -/
def ofFields (properties : Template.Properties) (fields : Fields) : Except Misfit Links := do
  let segments ← ((fields.named? "path_segments").getD .null).entries
  let sizeClasses ← singlesOr fields "image_size_classes" standard.sizeClasses
  let proxyHosts ← singlesOr fields "image_proxy_hosts" standard.proxyHosts
  return {
    databaseTemplate := fieldOr fields "database_url_template" standard.databaseTemplate
    foreignTemplate := fieldOr fields "foreign_item_url_template" standard.foreignTemplate
    segments := Table.update standard.segments segments
    sizeClasses
    proxyHosts
    iconMarker := fieldOr fields "guide_icon_marker" standard.iconMarker
    properties }

end Links
end GuideMarkup
