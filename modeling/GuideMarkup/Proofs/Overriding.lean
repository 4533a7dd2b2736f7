import GuideMarkup.Proofs.Persistence
import GuideMarkup.Proofs.Tables

/-!
# Proofs/Overriding — what the user's files make of the configuration

    no file, an unreadable file, a void value  ↦  the packaged part
    an object, pairs                           ↦  the packaged part under these fields
    any other value, one that does not exist   ↦  no configuration

Every part depends on its own file only (`Config.override_of_load`), and a part that was overridden
reads as the user's fields where they have one, and as the packaged part elsewhere
(`Table.lookup_update`).  What a configuration is good for is another question: its readers fail
where a part holds something of the wrong shape, or an integer too long to be written, and then no
document can be rendered (`Renderer.exists_render_iff`).
-/

namespace GuideMarkup

/-! ## Chains of look-ups along a list -/

section Chains

variable {ε α β : Type} {f : α → Except ε β}

theorem mapM_eq_ok_iff : ∀ {items : List α} {results : List β},
    items.mapM f = .ok results ↔ List.Forall₂ (fun item result => f item = .ok result) items results
  | [], results => by
    rw [List.mapM_nil]
    exact ⟨fun same => by obtain ⟨⟩ := same; exact .nil, fun all => by cases all; rfl⟩
  | item :: rest, results => by
    rw [List.mapM_cons]
    constructor
    · intro succeeds
      obtain ⟨result, first, succeeds⟩ := exists_ok_of_bind succeeds
      obtain ⟨others, after, ⟨⟩⟩ := exists_ok_of_bind succeeds
      exact .cons first (mapM_eq_ok_iff.mp after)
    · intro all
      cases all with
      | cons first after => rw [first, mapM_eq_ok_iff.mpr after]; rfl

theorem exists_mapM_iff : ∀ {items : List α},
    (∃ results, items.mapM f = .ok results) ↔ ∀ item ∈ items, ∃ result, f item = .ok result := by
  intro items
  simp only [mapM_eq_ok_iff]
  induction items with
  | nil => simp
  | cons item rest ih =>
    rw [List.forall_mem_cons, ← ih]
    constructor
    · rintro ⟨results, all⟩
      cases all with
      | cons first after => exact ⟨⟨_, first⟩, _, after⟩
    · rintro ⟨⟨result, first⟩, results, after⟩
      exact ⟨result :: results, .cons first after⟩

end Chains

/-! ## Values that contribute fields -/

namespace Data

variable {value : Data}

/-- The value is a pair, the first part of which can call a field. -/
def IsField (value : Data) : Prop :=
  ∃ name content, value.parts? = some [name, content] ∧ name.key?.isSome

/-- The value has fields to put over an object: none, its own, or one for each of its parts. -/
def HoldsFields (value : Data) : Prop :=
  value.isVoid = true ∨ (∃ fields, value = .object fields) ∨
    ∃ parts, value.parts? = some parts ∧ ∀ part ∈ parts, part.IsField

theorem exists_asField_iff : (∃ field, value.asField = .ok field) ↔ value.IsField := by
  rw [asField, IsField]
  split
  · simp_all
  · rename_i name content parts
    cases key : name.key? <;> simp_all
  · rename_i other parts
    simp_all

/-- **The values that can override** are those that hold fields. -/
theorem exists_entries_iff : (∃ fields, value.entries = .ok fields) ↔ value.HoldsFields := by
  rw [entries.eq_def, HoldsFields]
  split
  · rename_i void
    simp [void]
  · rename_i filled
    split
    · simp
    · rename_i value _ _ parts notObject known
      have notObject : ¬∃ fields, value = object fields :=
        fun ⟨fields, same⟩ => notObject fields same
      simp only [exists_mapM_iff, exists_asField_iff, filled, notObject, known,
        Bool.false_eq_true, false_or, Option.some.injEq, exists_eq_left']
    · rename_i value _ _ notObject none
      have notObject : ¬∃ fields, value = object fields :=
        fun ⟨fields, same⟩ => notObject fields same
      simp only [filled, notObject, none, false_or, reduceCtorEq, false_and, exists_false]

theorem entries_of_isVoid (void : value.isVoid = true) : value.entries = .ok [] := by
  rw [entries.eq_def, if_pos void]

/-- An object contributes its own fields. -/
theorem entries_object (fields : Fields) : (Data.object fields).entries = .ok fields := by
  cases fields <;> rfl

end Data

/-! ## Loading -/

variable {files : Section → Option UserFile} {config : Config} {part : Section}

/-- What the file holds can be put over a part, unless it changes nothing anyway. -/
def UserFile.Overrides : UserFile → Prop
  | .unreadable => True
  | .holds value => value.HoldsFields
  | .failing _ => False

/-- **What a part is under the user's file for it.** -/
structure Section.IsUnder (part : Section) (file : Option UserFile) (fields : Fields) : Prop where
  /-- Without a file that holds anything, the part is the packaged one. -/
  kept : (∀ value, file = some (.holds value) → value.isVoid = true) → fields = part.packaged
  /-- With one, the part has the user's fields, and for the rest the packaged ones. -/
  merged : ∀ value user, file = some (.holds value) → value.entries = .ok user →
    ∀ key, fields.lookup key = ((Table.ofEntries user).lookup key).or (part.packaged.lookup key)

namespace Config

theorem exists_override_iff {packaged : Fields} {file : Option UserFile} :
    (∃ fields, override packaged file = .ok fields) ↔
      ∀ content, file = some content → content.Overrides := by
  cases file with
  | none => simp [override]
  | some content =>
    simp only [Option.some.injEq, forall_eq']
    cases content with
    | unreadable => simp [override, UserFile.Overrides]
    | failing misfit => simp [override, UserFile.Overrides]
    | holds value =>
      rw [UserFile.Overrides, ← Data.exists_entries_iff]
      constructor
      · rintro ⟨fields, overrides⟩
        obtain ⟨user, contributed, -⟩ := exists_ok_of_bind overrides
        exact ⟨user, contributed⟩
      · rintro ⟨user, contributed⟩
        exact ⟨packaged.update user, by rw [override, contributed]; rfl⟩

theorem isUnder_of_override {file : Option UserFile} {fields : Fields}
    (overrides : override part.packaged file = .ok fields) : part.IsUnder file fields := by
  cases file with
  | none =>
    obtain ⟨⟩ := overrides
    exact ⟨fun _ => rfl, nofun⟩
  | some content =>
    cases content with
    | unreadable =>
      obtain ⟨⟩ := overrides
      exact ⟨fun _ => rfl, nofun⟩
    | failing misfit => exact absurd overrides nofun
    | holds value =>
      obtain ⟨user, contributed, ⟨⟩⟩ := exists_ok_of_bind overrides
      refine ⟨fun void => ?_, ?_⟩
      · rw [Data.entries_of_isVoid (void value rfl)] at contributed
        obtain ⟨⟩ := contributed
        rfl
      · rintro _ _ ⟨⟩ same key
        obtain rfl := Except.ok.inj (contributed.symm.trans same)
        exact Table.lookup_update _ _ key

/-- Each part of a configuration is overridden by its own file. -/
theorem override_of_load (loaded : load files = .ok config) (part : Section) :
    override part.packaged (files part) = .ok (config.part part) := by
  rw [load] at loaded
  obtain ⟨whitelist, overrides, loaded⟩ := exists_ok_of_bind loaded
  obtain ⟨resourceLinks, overrides', loaded⟩ := exists_ok_of_bind loaded
  obtain ⟨resourceMapping, overrides'', loaded⟩ := exists_ok_of_bind loaded
  obtain ⟨messages, overrides''', loaded⟩ := exists_ok_of_bind loaded
  obtain ⟨logging, overrides'''', ⟨⟩⟩ := exists_ok_of_bind loaded
  cases part <;> assumption

/-- **There is a configuration** just if every file can be put over its part. -/
theorem exists_load_iff : (∃ config, load files = .ok config) ↔
    ∀ part content, files part = some content → content.Overrides := by
  constructor
  · rintro ⟨config, loaded⟩ part
    exact exists_override_iff.mp ⟨_, override_of_load loaded part⟩
  · intro overrides
    have parts : ∀ part, ∃ fields, override part.packaged (files part) = .ok fields :=
      fun part => exists_override_iff.mpr (overrides part)
    choose fields overridden using parts
    rw [load, overridden, overridden, overridden, overridden, overridden]
    exact ⟨_, rfl⟩

/-! ## Readers of a configuration -/

end Config

/-- The field, if it is there, holds single values only. -/
def Fields.HoldsSingles (fields : Fields) (name : String) : Prop :=
  ∀ value, fields.named? name = some value →
    ∃ members, value.members = .ok members ∧ ∀ member ∈ members, member.key?.isSome

/-- The message of the given name, if it is there, can be written. -/
def Config.HasMessage (config : Config) (name : String) : Prop :=
  ∀ value, (config.part .messages).named? name = some value → value.isWritable = true

/-- **The configuration can be used**: what its readers look at has the shape that they expect, and
what they make texts of can be written. -/
structure Config.IsUsable (config : Config) : Prop where
  origins : ∃ members, (((config.part .whitelist).named? "origins").getD .null).members =
    .ok members ∧ ∀ member ∈ members, ∃ origin, member = .text origin
  mapping : ∀ field ∈ config.part .resourceMapping, field.2.isVoid = true ∨
    ∃ pages, field.2 = .object pages ∧
      ∀ page ∈ pages, page.1.isWritable = true ∧ page.2.isWritable = true
  segments : (((config.part .resourceLinks).named? "path_segments").getD .null).HoldsFields
  sizeClasses : (config.part .resourceLinks).HoldsSingles "image_size_classes"
  proxyHosts : (config.part .resourceLinks).HoldsSingles "image_proxy_hosts"
  hiddenLinkText : config.HasMessage "hidden_link"

namespace Config

theorem exists_originEntry_iff {value : Data} :
    (∃ origin, originEntry value = .ok origin) ↔ ∃ origin, value = .text origin := by
  cases value <;> simp [originEntry]

theorem exists_page_iff {field : Key × Data} : (∃ entry, page field = .ok entry) ↔
    field.1.isWritable = true ∧ field.2.isWritable = true := by
  rw [page, Key.display?, Data.display?]
  cases field.1.isWritable <;> cases field.2.isWritable <;>
    simp [written, bind, Except.bind, pure, Except.pure]

theorem exists_pages_iff {value : Data} : (∃ table, pages value = .ok table) ↔
    value.isVoid = true ∨ ∃ fields, value = .object fields ∧
      ∀ field ∈ fields, field.1.isWritable = true ∧ field.2.isWritable = true := by
  rw [pages.eq_def]
  split
  · rename_i void
    simp [void]
  · rename_i filled
    split
    · rename_i fields
      simp only [← exists_page_iff, ← exists_mapM_iff, filled, Data.object.injEq, exists_eq_left',
        Bool.false_eq_true, false_or]
      constructor
      · rintro ⟨table, reads⟩
        obtain ⟨entries, read, -⟩ := exists_ok_of_bind reads
        exact ⟨entries, read⟩
      · rintro ⟨entries, read⟩
        exact ⟨Table.ofEntries entries, by rw [read]; rfl⟩
    · rename_i notObject
      have notObject : ¬∃ fields, value = .object fields ∧
          ∀ field ∈ fields, field.1.isWritable = true ∧ field.2.isWritable = true :=
        fun ⟨fields, same, _⟩ => notObject fields same
      simp only [filled, notObject, reduceCtorEq, exists_false, or_false, Bool.false_eq_true]

theorem exists_message_iff {name default : String} :
    (∃ text, config.message name default = .ok text) ↔ config.HasMessage name := by
  rw [message, HasMessage]
  cases (config.part .messages).named? name with
  | none => simp
  | some value =>
    simp only [Data.display?, Option.some.injEq, forall_eq']
    cases value.isWritable <;> simp [written]

theorem exists_whitelist_iff : (∃ origins, config.whitelist = .ok origins) ↔
    ∃ members, (((config.part .whitelist).named? "origins").getD .null).members = .ok members ∧
      ∀ member ∈ members, ∃ origin, member = .text origin := by
  rw [whitelist]
  simp only [← exists_originEntry_iff, ← exists_mapM_iff]
  constructor
  · rintro ⟨origins, reads⟩
    obtain ⟨members, listed, reads⟩ := exists_ok_of_bind reads
    exact ⟨members, listed, origins, reads⟩
  · rintro ⟨members, listed, origins, reads⟩
    exact ⟨origins, by rw [listed]; exact reads⟩

theorem exists_mapping_iff : (∃ table, config.mapping = .ok table) ↔
    ∀ field ∈ config.part .resourceMapping, field.2.isVoid = true ∨
      ∃ pages, field.2 = .object pages ∧
        ∀ page ∈ pages, page.1.isWritable = true ∧ page.2.isWritable = true := by
  rw [mapping, exists_mapM_iff]
  refine forall₂_congr fun ⟨kind, value⟩ _ => ?_
  rw [← exists_pages_iff]
  constructor
  · rintro ⟨table, reads⟩
    obtain ⟨own, read, -⟩ := exists_ok_of_bind reads
    exact ⟨own, read⟩
  · rintro ⟨own, read⟩
    refine ⟨(kind, own), ?_⟩
    change pages value >>= _ = _
    rw [read]
    rfl

end Config

namespace Links

variable {properties : Template.Properties} {fields : Fields}

theorem exists_singles_iff {value : Data} : (∃ members, value.singles = .ok members) ↔
    ∃ members, value.members = .ok members ∧ ∀ member ∈ members, member.key?.isSome := by
  rw [Data.singles]
  constructor
  · rintro ⟨members, reads⟩
    obtain ⟨listed, isListed, reads⟩ := exists_ok_of_bind reads
    split at reads
    · rename_i single
      exact ⟨listed, isListed, List.all_eq_true.mp single⟩
    · exact absurd reads nofun
  · rintro ⟨members, listed, single⟩
    refine ⟨members, ?_⟩
    rw [listed]
    exact if_pos (List.all_eq_true.mpr single)

theorem exists_singlesOr_iff {name : String} {standard : List Data} :
    (∃ members, singlesOr fields name standard = .ok members) ↔ fields.HoldsSingles name := by
  rw [singlesOr, Fields.HoldsSingles]
  cases fields.named? name with
  | none => simp
  | some value =>
    rw [Option.bind_some, Data.nonVoid?]
    by_cases void : value.isVoid = true
    · simp [void, Data.members]
    · simp [void, exists_singles_iff]

theorem exists_ofFields_iff : (∃ links, ofFields properties fields = .ok links) ↔
    ((fields.named? "path_segments").getD .null).HoldsFields ∧
      fields.HoldsSingles "image_size_classes" ∧ fields.HoldsSingles "image_proxy_hosts" := by
  rw [← Data.exists_entries_iff, ← exists_singlesOr_iff, ← exists_singlesOr_iff, ofFields]
  constructor
  · rintro ⟨links, reads⟩
    obtain ⟨segments, first, reads⟩ := exists_ok_of_bind reads
    obtain ⟨classes, second, reads⟩ := exists_ok_of_bind reads
    obtain ⟨hosts, third, -⟩ := exists_ok_of_bind reads
    exact ⟨⟨segments, first⟩, ⟨classes, second⟩, hosts, third⟩
  · rintro ⟨⟨segments, first⟩, ⟨classes, second⟩, hosts, third⟩
    rw [first, second, third]
    exact ⟨_, rfl⟩

end Links

/-! ## Rendering -/

section Rendering

variable {renderer : Renderer}

/-- **A context can be made around the checked boxes** just if the configuration can be used. -/
theorem Renderer.exists_around_iff {saved : Table Int Int} {guide step : Option Entry}
    {disabled : Bool} {checked : List Int} :
    (∃ ctx, renderer.around saved guide step disabled checked = .ok ctx) ↔
      renderer.config.IsUsable := by
  constructor
  · rintro ⟨ctx, made⟩
    obtain ⟨whitelist, first, made⟩ := exists_ok_of_bind made
    obtain ⟨mapping, second, made⟩ := exists_ok_of_bind made
    obtain ⟨links, third, made⟩ := exists_ok_of_bind made
    obtain ⟨text, fourth, -⟩ := exists_ok_of_bind made
    obtain ⟨segments, sizeClasses, proxyHosts⟩ := Links.exists_ofFields_iff.mp ⟨links, third⟩
    exact
      { origins := Config.exists_whitelist_iff.mp ⟨whitelist, first⟩
        mapping := Config.exists_mapping_iff.mp ⟨mapping, second⟩
        hiddenLinkText := Config.exists_message_iff.mp ⟨text, fourth⟩
        segments, sizeClasses, proxyHosts }
  · intro usable
    obtain ⟨whitelist, first⟩ := Config.exists_whitelist_iff.mpr usable.origins
    obtain ⟨mapping, second⟩ := Config.exists_mapping_iff.mpr usable.mapping
    obtain ⟨links, third⟩ := (@Links.exists_ofFields_iff renderer.properties _).mpr
      ⟨usable.segments, usable.sizeClasses, usable.proxyHosts⟩
    obtain ⟨text, fourth⟩ := (@Config.exists_message_iff _ "hidden_link" "hidden link").mpr
      usable.hiddenLinkText
    rw [around, first, second, third, fourth]
    exact ⟨_, rfl⟩

/-- The context of a step can be made just if the configuration can be used. -/
theorem Renderer.exists_context_iff (progress : Progress) (guide step : Option Int)
    (disabled : Bool) :
    (∃ ctx, renderer.context progress (guide.map .number) (step.map .number) disabled = .ok ctx) ↔
      renderer.config.IsUsable := by
  obtain ⟨checked, there⟩ :
      ∃ checked, progress.checkedIn (guide.map .number) (step.map .number) = .ok checked := by
    cases guide with
    | none => exact ⟨_, rfl⟩
    | some guide =>
      cases step with
      | none => exact ⟨_, rfl⟩
      | some step => exact ⟨_, progress.checkedAt_number guide step⟩
  rw [context_eq, there]
  exact exists_around_iff

/-- What it takes to render a markup: a configuration that can be used, if the parser makes a
document of it, and the message about that, if the parser rejects it. -/
def Config.Renders (config : Config) (parser : Markup.Parser) (markup : String) : Prop :=
  match Markup.parse parser markup with
  | .ok _ => config.IsUsable
  | .error (.rejected _ _) => config.HasMessage "parse_failed"
  | .error (.crash _) => False

/-- **Which steps can be rendered** is a matter of the configuration and the markup alone. -/
theorem Renderer.exists_render_iff (parser : Markup.Parser) (progress : Progress)
    (markup : String) (guide step : Option Int) (disabled : Bool) :
    (∃ rendering, renderer.render parser progress markup (guide.map .number) (step.map .number)
      disabled = .ok rendering) ↔ renderer.config.Renders parser markup := by
  rw [render, Config.Renders]
  cases Markup.parse parser markup with
  | ok document =>
    simp only [← exists_context_iff progress guide step disabled, renderTree]
    cases renderer.context progress (guide.map .number) (step.map .number) disabled <;>
      simp [bind, Except.bind, Except.mapError, Except.map, pure, Except.pure]
  | error error =>
    cases error with
    | crash name => simp
    | rejected name wording =>
      have exists_message_iff := @Config.exists_message_iff renderer.config "parse_failed"
        "The step content could not be read."
      simp only [← exists_message_iff, parseFailed]
      cases renderer.config.message "parse_failed" "The step content could not be read." <;>
        simp [Except.mapError, Except.map]

end Rendering

/-- **How much of the user's files is too much**: there is a configuration just if every file can be
put over its part; then each part is what it is under its own file, and a step can be rendered just
if the readers find what they expect, whatever the reader's progress and the step are. -/
theorem Config.load_contained (files : Section → Option UserFile) :
    ((∃ config, load files = .ok config) ↔
        ∀ part content, files part = some content → content.Overrides) ∧
      ∀ config, load files = .ok config →
        (∀ part : Section, part.IsUnder (files part) (config.part part)) ∧
        ∀ renderer : Renderer, renderer.config = config →
          ∀ (parser : Markup.Parser) (progress : Progress) (markup : String)
            (guide step : Option Int) (disabled : Bool),
            (∃ rendering, renderer.render parser progress markup (guide.map .number)
              (step.map .number) disabled = .ok rendering) ↔ config.Renders parser markup := by
  refine ⟨exists_load_iff, fun config loaded =>
    ⟨fun part => isUnder_of_override (override_of_load loaded part), ?_⟩⟩
  rintro renderer rfl
  exact renderer.exists_render_iff

/-- The configuration of a new installation can be used. -/
theorem Config.isUsable_packaged : packaged.IsUsable where
  origins := ⟨_, rfl, by simp [Packaged.origins]⟩
  mapping := by simp [packaged, Section.packaged, Packaged.resourceMapping]
  segments := Or.inr (Or.inl ⟨_, rfl⟩)
  sizeClasses := by rintro _ ⟨⟩; exact ⟨_, rfl, by simp [Data.key?]⟩
  proxyHosts := by rintro _ ⟨⟩; exact ⟨_, rfl, by simp [Data.key?]⟩
  hiddenLinkText := by rintro _ ⟨⟩; rfl

/-! ### Files of all sorts -/

/-- A file that cannot be read, one with a page of the alternate site, and one with an empty list. -/
def assortedFiles : Section → Option UserFile
  | .whitelist => some .unreadable
  | .resourceMapping =>
    some (.holds (.object [(.text "quest", .object [(.int 3, .text "https://page")])]))
  | .messages => some (.holds (.list []))
  | .resourceLinks | .logging => none

/-- The configuration under these files. -/
def Config.assorted : Config :=
  ⟨fun
    | .resourceMapping => [("quest", .object [(.int 3, .text "https://page")]),
        ("dungeon", .object []), ("item", .object [])]
    | part => part.packaged⟩

/-- A parser that takes every markup for a plain text. -/
def Markup.Parser.plain : Markup.Parser :=
  fun markup => .ok [.text markup]

/-- The packaged origins stay, the quests have a page, and a plain text can be rendered everywhere. -/
theorem Config.load_contained_assorted :
    load assortedFiles = .ok .assorted ∧
      Section.whitelist.IsUnder (some .unreadable) Section.whitelist.packaged ∧
      assorted.mapping = .ok [(.text "quest", [("3", "https://page")]), (.text "dungeon", []),
        (.text "item", [])] ∧
      ∀ renderer : Renderer, renderer.config = assorted →
        ∀ (progress : Progress) (guide step : Option Int) (disabled : Bool),
          ∃ rendering, renderer.render .plain progress "plain words" (guide.map .number)
            (step.map .number) disabled = .ok rendering := by
  have loaded : load assortedFiles = .ok .assorted := by
    have parts : load assortedFiles = .ok ⟨_⟩ := rfl
    refine parts.trans (congrArg (fun part => Except.ok (Config.mk part)) (funext fun part => ?_))
    cases part <;> rfl
  obtain ⟨isUnder, renders⟩ := (load_contained assortedFiles).2 assorted loaded
  refine ⟨loaded, isUnder .whitelist, rfl, fun renderer same progress guide step disabled =>
    (renders renderer same .plain progress "plain words" guide step disabled).mpr ?_⟩
  have parsed : Markup.parse .plain "plain words" = .ok (.root [.text "plain words"]) := by rfl
  rw [Renders, parsed]
  have three : (Key.int 3).isWritable = true := by rfl
  exact { Config.isUsable_packaged with mapping := by simp [assorted, Data.isWritable, three] }

/-- The files of a user who has one only. -/
def Section.only (part : Section) (value : Data) (other : Section) : Option UserFile :=
  if other = part then some (.holds value) else none

/-- A number in the place of the messages leaves no configuration at all, and one in the place of
the origins leaves a configuration under which not even an empty step can be rendered. -/
theorem Config.not_contained_five :
    load (Section.messages.only (.int 5)) = .error .noMembers ∧
      ∃ config, load (Section.whitelist.only (.object [("origins", .int 5)])) = .ok config ∧
        (Renderer.mk [] ⟨false⟩ config false Template.plainProperties).render .plain .empty "" none
          none false = .error (.misfit .noMembers) :=
  ⟨rfl, _, rfl, rfl⟩

end GuideMarkup
