import GuideMarkup.Data.Basic
import GuideMarkup.Template.Fill

/-!
# Guide — what the surroundings of a step provide

The guides that are available, the platform and its keys, the addresses of the game databases, and
all that a transformation may consult (`Context`).  A table of the context may be missing, and a
number may be blank, which is noticed only when it is used: then the look-up ends in a `Fault`.
-/

namespace GuideMarkup

/-! ## Guides -/

/-- What is known of an available guide. -/
structure GuideInfo where
  stepCount : Entry
  lang : String
deriving DecidableEq, Repr

/-- The available guides, by number. -/
abbrev Registry := Table Int GuideInfo

/-! ## Keys -/

/-- The keys held during a gesture. -/
structure Modifiers where
  ctrl : Bool
  command : Bool
  alt : Bool
  shift : Bool
deriving DecidableEq, Repr

/-- No key is held. -/
def Modifiers.none : Modifiers := ⟨false, false, false, false⟩

/-- The platform that the host runs on. -/
structure Platform where
  isMac : Bool
deriving DecidableEq, Repr

/-- The key that opens the game database is held. -/
def Platform.opensDatabase (platform : Platform) (keys : Modifiers) : Bool :=
  if platform.isMac then keys.command else keys.ctrl

/-! ## Links -/

/-- Where resources are found, and how images are told apart.  The parts should be texts, but a
configuration may hold other values; one that is no text is a fault only where it is used. -/
structure Links where
  /-- The address of a resource, with the fields `lang`, `segment` and `id`. -/
  databaseTemplate : Data
  /-- The address of an item of the second game, with the field `id`. -/
  foreignTemplate : Data
  /-- The part of the address that stands for a kind. -/
  segments : Table Key Data
  /-- The classes of images that are pictures and no icons. -/
  sizeClasses : List Data
  /-- The hosts whose images are fetched by the host program. -/
  proxyHosts : List Data
  /-- The part of a source that marks the icon of a guide link. -/
  iconMarker : Data
  /-- What the fields of an address may ask of a value. -/
  properties : Template.Properties

/-- The links of an installation without settings. -/
def Links.standard : Links where
  databaseTemplate :=
    .text "https://dofusdb.fr/\x7blang\x7d/database/\x7bsegment\x7d/\x7bid\x7d"
  foreignTemplate := .text "https://db.methodwakfu.com/items/\x7bid\x7d"
  segments := [("monster", .text "monster"), ("quest", .text "quest"), ("item", .text "object"),
    ("dungeon", .text "dungeon")]
  sizeClasses := [.text "img-large", .text "img-medium", .text "img-small"]
  proxyHosts := [.text "dofusdb.fr", .text "ganymede-app.com"]
  iconMarker := .text "images/texteditor/guides.png"
  properties := Template.plainProperties

/-! ## Faults -/

/-- The tables of a context that may be missing. -/
inductive TableName where
  | whitelist
  | checked
  | registry
  | mapping
  | saved
deriving DecidableEq, Repr

/-- Why a part of a transformation fails. -/
inductive Fault where
  /-- A table was used that the context lacks. -/
  | missing (table : TableName)
  /-- A number was needed that is blank. -/
  | blank
  /-- A number in the markup has too many digits. -/
  | overlongNumber
  /-- An address template cannot be filled. -/
  | template (error : TemplateError)
  /-- An address template is no text. -/
  | notTemplate
  /-- A host or a marker is no text. -/
  | notText
  /-- A rule failed that always fails. -/
  | broken
deriving DecidableEq, Repr

/-- The number that an entry stands for. -/
def Entry.value : Entry → Except Fault Int
  | number n => .ok n
  | blank => .error .blank

/-! ## Context -/

/-- The pages of the alternate site, by kind and then by identifier. -/
abbrev Mapping := Table Key (Option (Table String String))

/-- All that a transformation consults. -/
structure Context where
  /-- The origins that links may lead to. -/
  whitelist : Option (List String)
  guide : Option Entry
  /-- The step being read, counted from zero. -/
  step : Option Entry
  /-- Nothing reacts. -/
  disabled : Bool
  platform : Platform
  registry : Option Registry
  /-- The numbers of the checked boxes of the step. -/
  checked : Option (List Int)
  mapping : Option Mapping
  /-- The step that the reader has reached, by guide. -/
  saved : Option (Table Int Int)
  /-- Coordinates copy the travel command. -/
  travelCopy : Bool
  links : Links
  hiddenLinkText : String

namespace Context

/-- The context of a preview outside of all guides: no table is missing, and none has an entry. -/
def preview : Context where
  whitelist := some []
  guide := none
  step := none
  disabled := false
  platform := ⟨false⟩
  registry := some []
  checked := some []
  mapping := some []
  saved := some []
  travelCopy := false
  links := .standard
  hiddenLinkText := "hidden link"

/-- A table of the context, if it has it. -/
def need {α : Type} (name : TableName) : Option α → Except Fault α
  | some table => .ok table
  | none => .error (.missing name)

theorem need_eq_ok_iff {α : Type} {name : TableName} {known : Option α} {table : α} :
    need name known = .ok table ↔ known = some table := by
  cases known <;> simp [need]

/-- What is known of a guide; without a guide no table is used. -/
def guideInfo (ctx : Context) : Option Entry → Except Fault (Option GuideInfo)
  | none => .ok none
  | some guide => do return (← need .registry ctx.registry).lookup (← guide.value)

/-- The alternate page of a resource; without an identifier no table is used. -/
def mappedPage (ctx : Context) (kind : String) (id : Option String) :
    Except Fault (Option String) :=
  match id with
  | none => .ok none
  | some id =>
    if id.isEmpty then .ok none
    else do
      let mapping ← need .mapping ctx.mapping
      return ((mapping.lookup (.text kind)).join.getD []).lookup id

/-- The step that the reader has reached in a guide. -/
def savedStep (ctx : Context) (guide : Int) : Except Fault (Option Int) := do
  return (← need .saved ctx.saved).lookup guide

/-- A box of the step is checked. -/
def isChecked (ctx : Context) (index : Int) : Except Fault Bool := do
  return (← need .checked ctx.checked).contains index

/-- Both guide and step were entered. -/
def hasStep (ctx : Context) : Bool :=
  ctx.guide.isSome && ctx.step.isSome

/-- The language of the guide being read, if it is available. -/
def language? (ctx : Context) : Except Fault (Option String) := do
  return (← ctx.guideInfo ctx.guide).map GuideInfo.lang

end Context
end GuideMarkup
