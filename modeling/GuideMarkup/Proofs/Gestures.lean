import GuideMarkup.Proofs.Directions
import GuideMarkup.Proofs.Filling

/-!
# Proofs/Gestures — what a gesture on a resource comes to

    disabled                                 ↦  nothing
    Alt, on an item, a quest or a dungeon    ↦  the alternate page is opened, or nothing
    the database key                         ↦  the database page is opened, if there is one
    otherwise                                ↦  the name is copied

The pages are looked up when the tree is made and chosen from when the gesture is; this is the table
of gestures all the way from the markup to the intents (`intents_resource`).  A `Directory` says
where the pages of resources are found.  What is empty counts as nothing: an empty identifier has no
page, and a page with an empty address is none.
-/

namespace GuideMarkup

variable {ctx : Context} {kind : ResourceKind}

/-! ## Directories -/

/-- Where the pages of resources are found. -/
structure Directory where
  setting : Setting
  /-- The pages of the alternate site. -/
  mapping : Mapping
  /-- The parts of addresses that stand for kinds, as configured. -/
  segments : Table Key String
  /-- The address template of the database. -/
  database : List AddressPart
  /-- The address template of the second game. -/
  foreign : List AddressPart

/-- The context has the tables of the directory, and its templates. -/
structure Context.Consults (ctx : Context) (directory : Directory) : Prop where
  guide : ctx.guide = directory.setting.guide.map .number
  registry : ctx.registry = some directory.setting.registry
  mapping : ctx.mapping = some directory.mapping
  segments : ctx.links.segments = directory.segments.map fun (key, part) => (key, .text part)
  database : ctx.links.databaseTemplate = .text (AddressPart.template directory.database)
  foreign : ctx.links.foreignTemplate = .text (AddressPart.template directory.foreign)
  /-- The addresses of the second game have no field but the identifier. -/
  foreignFields : ∀ field, .value field ∈ directory.foreign → field = .id

namespace Directory

/-- The part of an address that stands for the kind: as configured, or the name of the kind. -/
def segment (directory : Directory) (kind : ResourceKind) : String :=
  (directory.segments.lookup (.text kind.name)).getD kind.name

/-- The values of the fields in the address of a resource. -/
def values (directory : Directory) (kind : ResourceKind) (lang id : String) : AddressField → String
  | .lang => lang
  | .segment => directory.segment kind
  | .id => id

/-- The language of the guide being read, if it is available. -/
def lang? (directory : Directory) : Option String :=
  (directory.setting.guide.bind fun guide => directory.setting.registry.lookup guide).map
    GuideInfo.lang

/-- The entry for a kind and an identifier in the table of the alternate site. -/
def entry? (directory : Directory) (kind : ResourceKind) (id : String) : Option String :=
  (directory.mapping.lookup (.text kind.name)).join.bind fun pages => pages.lookup id

/-- **The alternate page of a resource**: the entry for it, unless that is empty. -/
def alternatePage? (directory : Directory) (kind : ResourceKind) (id : Option String) :
    Option String :=
  nonEmpty? (id.bind (directory.entry? kind))

/-- **The database page of a resource** that has an identifier: the address with its fields
filled. -/
def databasePage? (directory : Directory) (kind : ResourceKind) (id : Option String) :
    Option String :=
  (nonEmpty? id).bind fun id =>
    if kind = .foreignItem then some (AddressPart.address (fun _ => id) directory.foreign)
    else directory.lang?.map fun lang =>
      AddressPart.address (directory.values kind lang id) directory.database

end Directory

/-- The identifier of an element, in the attribute that its kind has for it. -/
def Tag.identifier? (tag : Tag) (kind : ResourceKind) : Option String :=
  match kind with
  | .foreignItem => tag.attr? "wakfuid"
  | .monster | .quest | .item | .dungeon => tag.attr? "dofusdbid"

/-- **The table of gestures on a resource** with the given name and pages. -/
def ResourceKind.gesture (kind : ResourceKind) (name : String) (alternate database : Option String)
    (disabled : Bool) (keys : Modifiers) (platform : Platform) : List Intent :=
  if disabled then []
  else if keys.alt ∧ (kind = .item ∨ kind = .quest ∨ kind = .dungeon) then
    match alternate with
    | some url => [.openUrl url]
    | none => []
  else
    match if (if platform.isMac then keys.command else keys.ctrl) then database else none with
    | some url => [.openUrl url]
    | none => [.copy name]

/-! ## Looking pages up -/

namespace Context.Consults

variable {directory : Directory} (consults : ctx.Consults directory)

include consults

theorem mappedPage (kind : ResourceKind) (id : Option String) :
    ctx.mappedPage kind.name id = .ok ((nonEmpty? id).bind (directory.entry? kind)) := by
  rcases id with _ | id
  · rfl
  · rw [Context.mappedPage, nonEmpty?, Option.filter_some]
    by_cases empty : id.isEmpty
    · rw [if_pos empty, empty]
      rfl
    · have found : ((directory.mapping.lookup (.text kind.name)).join.getD []).lookup id =
          directory.entry? kind id := by
        rw [Directory.entry?]
        cases (directory.mapping.lookup (.text kind.name)).join <;> rfl
      rw [if_neg empty, consults.mapping, if_pos (by simpa using empty), Option.bind_some, ← found]
      rfl

theorem language? : ctx.language? = .ok directory.lang? := by
  rw [Context.language?, consults.guide, Directory.lang?]
  cases directory.setting.guide with
  | none => rfl
  | some guide =>
    rw [Option.map_some, guideInfo_number consults.registry]
    rfl

theorem segment (kind : ResourceKind) :
    ctx.links.segment kind = .text (directory.segment kind) := by
  have configured : ctx.links.segments.lookup (.text kind.name) =
      (directory.segments.lookup (.text kind.name)).map .text := by
    rw [consults.segments]
    induction directory.segments with
    | nil => rfl
    | cons entry rest ih =>
      rw [List.map_cons, List.lookup_cons, List.lookup_cons, ih]
      cases Key.text kind.name == entry.1 <;> rfl
  rw [Links.segment, configured, Directory.segment]
  cases directory.segments.lookup (.text kind.name) <;> rfl

theorem fillForeign (id : String) :
    ctx.links.fillForeign id = .ok (AddressPart.address (fun _ => id) directory.foreign) := by
  rw [Links.fillForeign, consults.foreign, Links.fill, AddressPart.fill_template]
  · rfl
  · intro field member
    rw [consults.foreignFields field member]
    rfl

theorem fillAddress (kind : ResourceKind) (lang id : String) :
    ctx.links.fillAddress kind lang id =
      .ok (AddressPart.address (directory.values kind lang id) directory.database) := by
  rw [Links.fillAddress, consults.database, consults.segment, Links.fill,
    AddressPart.fill_template]
  · rfl
  · intro field _
    cases field <;> rfl

theorem databaseUrl (kind : ResourceKind) (id : Option String) :
    ctx.databaseUrl kind id = .ok (directory.databasePage? kind id) := by
  rw [Context.databaseUrl, Directory.databasePage?]
  cases nonEmpty? id with
  | none => rfl
  | some id =>
    dsimp only [Option.bind_some]
    split
    · rw [consults.fillForeign]
      rfl
    · rw [consults.language?]
      cases directory.lang? with
      | none => rfl
      | some lang =>
        dsimp only [bind, Except.bind]
        rw [consults.fillAddress]
        rfl

end Context.Consults

/-! ## Tags -/

theorem Tag.identifier?_eq (tag : Tag) : tag.identifier? kind = tag.externalId? kind := by
  cases kind <;> rfl

/-- The tag of a resource has its pages, those with an empty address included. -/
theorem Context.Consults.resourceTag {directory : Directory} (consults : ctx.Consults directory)
    (tag : Tag) (kind : ResourceKind) : ∃ made, ctx.resourceTag tag kind = .ok made ∧
      made.kind = kind ∧ made.name = tag.attr "name" ∧ made.disabled = ctx.disabled ∧
      made.databaseUrl = directory.databasePage? kind (tag.identifier? kind) ∧
      (kind.isMapped → made.mappedUrl =
        (nonEmpty? (tag.identifier? kind)).bind (directory.entry? kind)) := by
  rw [Context.resourceTag, consults.databaseUrl, consults.mappedPage, ← tag.identifier?_eq]
  cases kind.isMapped with
  | false => exact ⟨_, rfl, rfl, rfl, rfl, rfl, nofun⟩
  | true => exact ⟨_, rfl, rfl, rfl, rfl, rfl, fun _ => rfl⟩

/-- Only the kinds that have alternate pages look at them. -/
theorem ResourceKind.gesture_congr {alternate alternate' : Option String}
    (same : kind.isMapped = true → alternate = alternate') (name : String)
    (database : Option String) (disabled : Bool) (keys : Modifiers) (platform : Platform) :
    kind.gesture name alternate database disabled keys platform =
      kind.gesture name alternate' database disabled keys platform := by
  by_cases mapped : kind.isMapped = true
  · rw [same mapped]
  · have never : ¬(keys.alt ∧ (kind = .item ∨ kind = .quest ∨ kind = .dungeon)) :=
      fun holds => mapped (isMapped_iff.mpr holds.2)
    rw [gesture.eq_def, gesture.eq_def, if_neg never, if_neg never]

/-- The intents of a tag are those in the table, where a page with an empty address is none. -/
theorem intents_resourceTag (made : ResourceTag) (keys : Modifiers) (platform : Platform) :
    (Content.resource made).intents keys platform =
      made.kind.gesture made.name (nonEmpty? made.mappedUrl) (nonEmpty? made.databaseUrl)
        made.disabled keys platform := by
  rw [Content.intents, ResourceKind.gesture.eq_def]
  by_cases disabled : made.disabled
  · rw [if_pos disabled, if_neg (by simpa [Content.isActivatable] using disabled)]
  · rw [if_neg disabled, if_pos (by simpa [Content.isActivatable] using disabled),
      Content.gesture, ResourceTag.intents]
    have switches : (keys.alt && made.kind.isMapped) = true ↔
        keys.alt ∧ (made.kind = .item ∨ made.kind = .quest ∨ made.kind = .dungeon) := by
      rw [Bool.and_eq_true, ResourceKind.isMapped_iff]
    by_cases alternate : (keys.alt && made.kind.isMapped) = true
    · rw [if_pos alternate, if_pos (switches.mp alternate), ResourceTag.openMapped, ← nonEmpty?]
      cases nonEmpty? made.mappedUrl <;> rfl
    · rw [if_neg alternate, if_neg fun holds => alternate (switches.mpr holds),
        ResourceTag.openDatabase, Platform.opensDatabase, ← nonEmpty?]
      cases (if platform.isMac then keys.command else keys.ctrl)
      · rfl
      · cases nonEmpty? made.databaseUrl <;> rfl

/-! ## Elements -/

/-- An element that stands for a resource is made a tag, with its first child as the icon. -/
theorem decideAll_resource {site : Site} (role : site.tag.attr? "data-type" = some "custom-tag")
    (known : ResourceKind.ofMarkup? (site.tag.attr "type") = some kind)
    (full : ¬(site.tag.name = "p" ∧ site.children = [])) :
    Rule.decideAll ctx site Rule.standard = .render .first fun icon => do
      return .mk (.resource (← ctx.resourceTag site.tag kind)) icon := by
  have noBlank : (Markup.element site.tag site.children).isBlankParagraph = false := by
    simpa [Markup.isBlankParagraph] using full
  have declined : decideGuideStep ctx site = .decline := by
    rw [decideGuideStep, Tag.role?, role]
    rfl
  have made : decideCustomTag ctx site = .render .first fun icon => do
      return .mk (.resource (← ctx.resourceTag site.tag kind)) icon := by
    rw [decideCustomTag, Tag.role?, role, known]
    rfl
  simp only [Rule.standard, Rule.decideAll, Rule.decide, decideBlankParagraph, noBlank, declined,
    made, Bool.false_eq_true, if_false]

/-- **What a gesture on a resource comes to**: it follows the table, with the pages that the
directory has for the identifier of the element. -/
theorem intents_resource {directory : Directory} (consults : ctx.Consults directory) {tag : Tag}
    {children : List Markup} (role : tag.attr? "data-type" = some "custom-tag")
    (known : ResourceKind.ofMarkup? (tag.attr "type") = some kind)
    (full : ¬(tag.name = "p" ∧ children = [])) (ancestors : List Tag) (following : List Markup)
    (pass : Pass) (keys : Modifiers) (platform : Platform) :
    (transformNode Rule.standard ctx ancestors following (.element tag children)
        pass).1.content.intents keys platform =
      kind.gesture (tag.attr "name")
        (directory.alternatePage? kind (nonEmpty? (tag.identifier? kind)))
        (nonEmpty? (directory.databasePage? kind (tag.identifier? kind)))
        ctx.disabled keys platform := by
  obtain ⟨made, built, rfl, name, disabled, database, mapped⟩ :=
    consults.resourceTag tag kind
  have pages : made.kind.isMapped = true → nonEmpty? made.mappedUrl =
      directory.alternatePage? made.kind (nonEmpty? (tag.identifier? made.kind)) := fun held => by
    rw [mapped held, Directory.alternatePage?]
  have shown : ∀ icon, (do return .mk (.resource (← ctx.resourceTag tag made.kind)) icon) =
      Except.ok (Node.mk (.resource made) icon) := fun icon => by
    rw [built]
    rfl
  rw [transformNode_element, decideAll_resource role known full,
    Decision.settle_render_ok (shown _)]
  rw [Node.content, intents_resourceTag, ResourceKind.gesture_congr pages, name, disabled, database]

/-! ## Two directories

In the one an identifier has braces; in the other an address is empty, and so is an identifier. -/

namespace Directory

/-- The context of a reader who consults the directory. -/
def context (directory : Directory) : Context :=
  { Context.preview with
    guide := directory.setting.guide.map .number
    registry := some directory.setting.registry
    mapping := some directory.mapping
    links := { Links.standard with
      databaseTemplate := .text (AddressPart.template directory.database)
      foreignTemplate := .text (AddressPart.template directory.foreign)
      segments := directory.segments.map fun (key, part) => (key, .text part) } }

theorem consults_context {directory : Directory} (onlyId : directory.foreign = [.value .id]) :
    directory.context.Consults directory where
  guide := rfl
  registry := rfl
  mapping := rfl
  segments := rfl
  database := rfl
  foreign := rfl
  foreignFields field member := by
    rw [onlyId, List.mem_singleton] at member
    exact AddressPart.value.inj member

/-- A directory with the address `fr/object/{id}` for an item whose identifier is `{id}` itself. -/
def braced : Directory where
  setting := ⟨[(5, ⟨.number 10, "fr"⟩)], some 5⟩
  mapping := []
  segments := [(.text "item", "object")]
  database := [.value .lang, .literal '/', .value .segment, .literal '/', .value .id]
  foreign := [.value .id]

/-- A directory with an empty address for every item, and a page for an empty identifier. -/
def hollow : Directory where
  setting := ⟨[(5, ⟨.number 10, "fr"⟩)], some 5⟩
  mapping := [(.text "item", some [("", "https://m.example")])]
  segments := [(.text "item", "")]
  database := [.value .segment]
  foreign := [.value .id]

end Directory

/-- The tag of an item with the given identifier. -/
def Tag.item (id : String) : Tag :=
  ⟨"span", [("data-type", "custom-tag"), ("type", "item"), ("dofusdbid", id), ("name", "Gobball")]⟩

/-- What a gesture on an item comes to for a reader who consults the directory. -/
def Directory.intents (directory : Directory) (id : String) (keys : Modifiers) : List Intent :=
  (transformNode Rule.standard directory.context [] [] (.element (.item id) [])
    (.start 0)).1.content.intents keys ⟨false⟩

/-- The identifier with braces is put into the address as it is. -/
theorem intents_resource_braced : Directory.braced.context.Consults .braced ∧
    (Tag.item "\x7bid\x7d").attr? "data-type" = some "custom-tag" ∧
    ResourceKind.ofMarkup? ((Tag.item "\x7bid\x7d").attr "type") = some .item ∧
    ¬((Tag.item "\x7bid\x7d").name = "p" ∧ ([] : List Markup) = []) ∧
    Directory.braced.intents "\x7bid\x7d" ⟨true, false, false, false⟩ =
      [.openUrl "fr/object/\x7bid\x7d"] := by
  have consults : Directory.braced.context.Consults .braced := Directory.consults_context rfl
  have known : ResourceKind.ofMarkup? ((Tag.item "\x7bid\x7d").attr "type") = some .item := by
    decide
  refine ⟨consults, by decide, known, by decide, ?_⟩
  rw [Directory.intents, intents_resource consults (by decide) known (by decide)]
  decide

/-- **Empty addresses and identifiers are not in the table**: an empty address is not opened, nor is
the page for an empty identifier. -/
theorem not_gesture_hollow : Directory.hollow.context.Consults .hollow ∧
    (Directory.hollow.intents "7" ⟨true, false, false, false⟩ = [.copy "Gobball"] ∧
      ResourceKind.item.gesture "Gobball" (Directory.hollow.alternatePage? .item (some "7"))
        (Directory.hollow.databasePage? .item (some "7")) false ⟨true, false, false, false⟩
        ⟨false⟩ = [.openUrl ""]) ∧
    (Directory.hollow.intents "" ⟨false, false, true, false⟩ = [] ∧
      ResourceKind.item.gesture "Gobball" (Directory.hollow.alternatePage? .item (some ""))
        (Directory.hollow.databasePage? .item (some "")) false ⟨false, false, true, false⟩
        ⟨false⟩ = [.openUrl "https://m.example"]) :=
  ⟨Directory.consults_context rfl, by decide, by decide⟩

end GuideMarkup
