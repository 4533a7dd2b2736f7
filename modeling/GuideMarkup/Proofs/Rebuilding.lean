import GuideMarkup.Node.Data
import GuideMarkup.Proofs.Occurrence
import GuideMarkup.Proofs.RoundTrip

/-!
# Proofs/Rebuilding — a tree can be rebuilt from its plain data, and these from JSON

    tree  ──toData──▸  plain data  ──toJson──▸  text
          ◂─ofData?──              ◂──read?──

Every field of an object is looked up by its name, as a host does that knows nothing of their order.
So no two trees have the same plain data (`Node.toData_injective`).  If moreover no tag names an
attribute twice, as no tag does that has been read, then the plain data are of the kind that is read
back as it was written.
-/

namespace GuideMarkup

namespace Data

/-- The text that may be missing. -/
def toText? : Data → Option (Option String)
  | .null => some none
  | .text s => some (some s)
  | _ => none

/-- The entry that may be missing. -/
def toEntered? : Data → Option (Option Entry)
  | .null => some none
  | .int n => some (some (.number n))
  | .list [] => some (some .blank)
  | _ => none

/-- The texts by name. -/
def toTexts? : Data → Option (List (String × String))
  | .object fields => fields.mapM fun
    | (.text name, .text value) => some (name, value)
    | _ => none
  | _ => none

/-- The integer. -/
def toInt? : Data → Option Int
  | .int n => some n
  | _ => none

/-- The truth value. -/
def toBool? : Data → Option Bool
  | .bool b => some b
  | _ => none

theorem toText?_ofText? (s : Option String) : (ofText? s).toText? = some s := by
  rcases s with _ | s <;> rfl

theorem toEntered?_ofEntered (entry : Option Entry) :
    (ofEntered entry).toEntered? = some entry := by
  rcases entry with _ | _ | _ <;> rfl

theorem toTexts?_ofTexts (entries : List (String × String)) :
    (ofTexts entries).toTexts? = some entries := by
  rw [ofTexts, toTexts?, List.mapM_map]
  induction entries with
  | nil => rfl
  | cons entry rest ih =>
    rw [List.mapM_cons, ih]
    rfl

end Data

namespace Fields

/-- The field of the given name, read as it should be. -/
def read? {α : Type} (fields : Fields) (name : String) (read : Data → Option α) : Option α :=
  (fields.named? name).bind read

theorem read?_cons {α : Type} (key : String) (value : Data) (fields : Fields) (name : String)
    (read : Data → Option α) : read? ((.text key, value) :: fields) name read =
      if name = key then read value else read? fields name read := by
  rw [read?, named?, List.lookup_cons, Key.text_beq_text]
  by_cases same : name = key
  · rw [if_pos same, same, beq_self_eq_true]
    rfl
  · rw [if_neg same, beq_false_of_ne same]
    rfl

end Fields

namespace Content

/-- The content that fields describe. -/
def ofFields? (fields : Fields) : Option Content := do
  let kind ← fields.read? "kind" Data.text?
  match kind with
  | "PlainPassthrough" =>
    return .plain (← fields.read? "tag" Data.toText?) (← fields.read? "attributes" Data.toTexts?)
      (← fields.read? "text" Data.toText?)
  | "HiddenLinkPlaceholder" => return .hiddenLink (← fields.read? "message" Data.text?)
  | "LineBreak" => return .lineBreak
  | "Dropped" => return .dropped
  | "InteractiveNode" => return .bare
  | "FlattenedParagraph" => return .flattened
  | "PositionToken" =>
    return .position
      { x := ← fields.read? "x" Data.toInt?
        y := ← fields.read? "y" Data.toInt?
        copyText := ← fields.read? "copy_text" Data.text?
        disabled := ← fields.read? "disabled" Data.toBool? }
  | "SameGuideStepLink" => return .sameGuide (← link? fields)
  | "CrossGuideStepLink" =>
    return .crossGuide
      { link := ← link? fields
        needsDownload := ← fields.read? "needs_download" Data.toBool?
        pending := ← fields.read? "pending" Data.toBool?
        error := ← fields.read? "error" Data.toText? }
  | "ResourceTag" =>
    return .resource
      { kind := ← ResourceKind.ofName? (← fields.read? "resource_kind" Data.text?)
        name := ← fields.read? "name" Data.text?
        externalId := ← fields.read? "external_id" Data.toText?
        databaseUrl := ← fields.read? "database_url" Data.toText?
        mappedUrl := ← fields.read? "mapped_url" Data.toText?
        title := ← fields.read? "title" Data.text?
        disabled := ← fields.read? "disabled" Data.toBool? }
  | "QuestStatusBlock" =>
    return .quest
      { name := ← fields.read? "quest_name" Data.text?
        status := ← (← fields.read? "status" Data.toText?).mapM QuestStatus.ofName? }
  | "ImageRef" =>
    return .image
      { src := ← fields.read? "src" Data.text?
        clickable := ← fields.read? "clickable" Data.toBool?
        alt := ← fields.read? "alt" Data.toText?
        title := ← fields.read? "title" Data.toText?
        isIcon := ← fields.read? "is_icon" Data.toBool?
        proxied := ← fields.read? "proxied" Data.toBool?
        disabled := ← fields.read? "disabled" Data.toBool? }
  | "ExternalAnchor" =>
    return .anchor
      { href := ← fields.read? "href" Data.text?
        external := ← fields.read? "external" Data.toBool?
        disabled := ← fields.read? "disabled" Data.toBool? }
  | "Checkbox" =>
    return .checkbox
      { index := ← fields.read? "index" Data.toInt?
        checked := ← fields.read? "checked" Data.toBool?
        interactive := ← fields.read? "interactive" Data.toBool?
        guide := ← fields.read? "guide_id" Data.toEntered?
        step := ← fields.read? "step_index" Data.toEntered? }
  | _ => none
where
  /-- The link to a step that fields describe. -/
  link? (fields : Fields) : Option StepLink := do
    return {
      guide := ← fields.read? "target_guide_id" Data.toInt?
      step := ← fields.read? "target_step" Data.toInt?
      defaultIcon := ← fields.read? "show_default_icon" Data.toBool?
      disabled := ← fields.read? "disabled" Data.toBool? }

/-- **The fields describe the content**, whatever other fields come after them. -/
theorem ofFields?_fields (content : Content) (more : Fields) :
    ofFields? (("kind", .text content.kindName) :: (content.fields ++ more)) = some content := by
  cases content with
  | quest block =>
    obtain ⟨name, _ | status⟩ := block <;>
      simp [ofFields?, kindName, fields, Fields.read?_cons, Data.text?, Data.toText?_ofText?,
        QuestStatus.ofName?_name]
  | _ =>
    simp [ofFields?, ofFields?.link?, kindName, fields, Fields.read?_cons, Data.text?, Data.toBool?,
      Data.toInt?, Data.toText?_ofText?, Data.toTexts?_ofTexts, Data.toEntered?_ofEntered,
      ResourceKind.ofName?_name]

end Content

namespace Node

mutual

/-- **The tree that plain data describe.** -/
def ofData? : Data → Option Node
  | .object fields => do return .mk (← Content.ofFields? fields) (← childrenIn? fields)
  | _ => none

/-- The children among the fields, if there are any. -/
def childrenIn? : List (Key × Data) → Option (List Node)
  | [] => some []
  | (key, value) :: rest => if key == Key.text "children" then listed? value else childrenIn? rest

/-- The trees that a list describes. -/
def listed? : Data → Option (List Node)
  | .list items => ofDataAll? items
  | _ => none

/-- The trees that the items of a list describe. -/
def ofDataAll? : List Data → Option (List Node)
  | [] => some []
  | item :: rest => do return (← ofData? item) :: (← ofDataAll? rest)

end

theorem childrenIn?_cons (key : String) (value : Data) (rest : Fields) :
    childrenIn? ((.text key, value) :: rest) =
      if key = "children" then listed? value else childrenIn? rest := by
  rw [childrenIn?, Key.text_beq_text]
  simp

/-- No field of a content is taken for the children. -/
theorem childrenIn?_fields (content : Content) (rest : Fields) :
    childrenIn? (("kind", .text content.kindName) :: (content.fields ++ rest)) =
      childrenIn? rest := by
  cases content <;> simp [Content.fields, childrenIn?_cons]

/-- **A tree can be rebuilt from its plain data.** -/
theorem ofData?_toData : ∀ node : Node, ofData? node.toData = some node :=
  one
where
  one : ∀ node : Node, ofData? node.toData = some node
    | .mk content [] => by
      have described := content.ofFields?_fields []
      have childless := childrenIn?_fields content []
      rw [List.append_nil] at described childless
      rw [toData, ofData?, described, childless]
      rfl
    | .mk content (child :: rest) => by
      have inside : ofDataAll? (toData child :: toDataAll rest) = some (child :: rest) :=
        all (child :: rest)
      rw [toData, ofData?, Content.ofFields?_fields, childrenIn?_fields, childrenIn?_cons,
        if_pos rfl, listed?, inside]
      rfl
  all : ∀ nodes : List Node, ofDataAll? (toDataAll nodes) = some nodes
    | [] => rfl
    | node :: rest => by
      rw [toDataAll, ofDataAll?, one, all]
      rfl

/-- **Different trees have different plain data.** -/
theorem toData_injective : Function.Injective toData := fun node other same => by
  have rebuilt := ofData?_toData node
  rw [same, ofData?_toData] at rebuilt
  exact (Option.some.inj rebuilt).symm

end Node

/-! ## Plain data that JSON has a form for -/

/-- No attribute is named twice. -/
def Content.NamesOnce : Content → Prop
  | .plain _ attributes _ => Table.Distinct attributes
  | _ => True

theorem Data.isJson_ofText? (s : Option String) : (ofText? s).IsJson := by
  rcases s with _ | s
  · exact .null
  · exact .text s

theorem Data.isJson_ofEntered (entry : Option Entry) : (ofEntered entry).IsJson := by
  rcases entry with _ | n | _
  · exact .null
  · exact .int n
  · exact .list nofun

theorem Data.isJson_ofTexts {entries : Table String String} (distinct : entries.Distinct) :
    (ofTexts entries).IsJson := by
  refine .object (fun field member => ?_) ?_ (fun field member => ?_)
  · obtain ⟨entry, -, rfl⟩ := List.mem_map.mp member
    exact ⟨entry.1, rfl⟩
  · exact List.pairwise_map.mpr (distinct.imp fun apart => by rwa [Key.text_beq_text])
  · obtain ⟨entry, -, rfl⟩ := List.mem_map.mp member
    exact .text entry.2

namespace Content

theorem exists_text_of_mem_fields (content : Content) :
    ∀ field ∈ content.fields, ∃ name, field.1 = .text name := by
  cases content <;> simp [fields]

theorem isJson_of_mem_fields {content : Content} (once : content.NamesOnce) :
    ∀ field ∈ content.fields, field.2.IsJson := by
  cases content with
  | plain name attributes value =>
    simp [fields, Data.isJson_ofText?, Data.isJson_ofTexts once]
  | _ =>
    simp [fields, Data.IsJson.bool, Data.IsJson.int, Data.IsJson.text, Data.isJson_ofText?,
      Data.isJson_ofEntered]

/-- The kind, the fields of a content and the children have different names. -/
theorem distinct_fields (content : Content) (children : Data) :
    Table.Distinct ((Key.text "kind", .text content.kindName) ::
      (content.fields ++ [(Key.text "children", children)])) := by
  cases content <;> simp [Table.Distinct, fields, Key.text_beq_text]

end Content

namespace Node

/-- The plain data of a node, with its children or without any. -/
theorem isJson_object {content : Content} (once : content.NamesOnce) {children : Data}
    (below : children.IsJson) {more : Fields}
    (sub : more.Sublist [(Key.text "children", children)]) :
    (Data.object (("kind", .text content.kindName) :: (content.fields ++ more))).IsJson := by
  have inMore : ∀ field ∈ more, field = (Key.text "children", children) :=
    fun field member => List.mem_singleton.mp (sub.subset member)
  refine .object (fun field member => ?_) ?_ (fun field member => ?_)
  · rcases List.mem_cons.mp member with rfl | member
    · exact ⟨_, rfl⟩
    · rcases List.mem_append.mp member with own | member
      · exact content.exists_text_of_mem_fields field own
      · exact ⟨_, congrArg Prod.fst (inMore field member)⟩
  · exact (content.distinct_fields children).sublist ((sub.append_left _).cons_cons _)
  · rcases List.mem_cons.mp member with rfl | member
    · exact .text _
    · rcases List.mem_append.mp member with own | member
      · exact Content.isJson_of_mem_fields once field own
      · rwa [inMore field member]

/-- **The plain data of a tree are JSON**, if no attribute in it is named twice. -/
theorem isJson_toData : ∀ {node : Node}, Everywhere Content.NamesOnce [node] → node.toData.IsJson :=
  one
where
  one : ∀ {node : Node}, Everywhere Content.NamesOnce [node] → node.toData.IsJson
    | .mk content [], once => by
      have own := isJson_object (everywhere_mk.mp once).1 .null (List.nil_sublist _)
      rwa [List.append_nil] at own
    | .mk content (child :: rest), once => by
      obtain ⟨own, below⟩ := everywhere_mk.mp once
      exact isJson_object own (.list (all below)) (.refl _)
  all : ∀ {nodes : List Node}, Everywhere Content.NamesOnce nodes →
      ∀ data ∈ toDataAll nodes, data.IsJson
    | [], _ => nofun
    | node :: rest, once => by
      obtain ⟨first, others⟩ := (@everywhere_append _ [node] rest).mp once
      exact List.forall_mem_cons.mpr ⟨one first, all others⟩

/-- **The JSON of a tree is read as its plain data**, and the tree can be rebuilt from it. -/
theorem read?_toJson {node : Node} (once : Everywhere Content.NamesOnce [node]) :
    Json.read? (node.toData.toJson ++ "\n") = some node.toData ∧
      (Json.read? (node.toData.toJson ++ "\n")).bind ofData? = some node := by
  have read := Json.read?_toJson (isJson_toData once)
  exact ⟨read, by rw [read, Option.bind_some, ofData?_toData]⟩

end Node
end GuideMarkup
