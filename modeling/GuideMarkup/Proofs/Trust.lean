import GuideMarkup.Gesture
import GuideMarkup.Proofs.Occurrence

/-!
# Proofs/Trust — which addresses a tree can open

    anchor         ↦  its own address, whose origin is on the whitelist
    resource tag   ↦  the database page, with the database key
                      the mapped page of its kind and identifier, with Alt

`Grounds` lists the grounds on which an address may be opened.  No gesture on any node of any tree
opens an address without one.
-/

namespace GuideMarkup

variable {rules : List Rule} {ctx : Context} {keys : Modifiers} {platform : Platform}
  {url : String}

/-! ## Grounds -/

/-- The address has an origin, and the origin is on the whitelist. -/
def Context.Whitelists (ctx : Context) (url : String) : Prop :=
  ∃ origins origin, ctx.whitelist = some origins ∧ originOf url = some origin ∧ origin ∈ origins

/-- The table of mapped pages has the address for the kind and identifier of a resource. -/
def Context.Maps (ctx : Context) (tag : ResourceTag) (url : String) : Prop :=
  ∃ mapping pages id, ctx.mapping = some mapping ∧
    mapping.lookup (.text tag.kind.name) = some (some pages) ∧
    tag.externalId = some id ∧ pages.lookup id = some url

/-- **The grounds on which a content may open an address.** -/
inductive Grounds (ctx : Context) (keys : Modifiers) (platform : Platform) :
    Content → String → Prop
  | anchor (link : Anchor) (trusted : ctx.Whitelists link.href) :
      Grounds ctx keys platform (.anchor link) link.href
  | database (tag : ResourceTag) {url : String} (page : tag.databaseUrl = some url)
      (held : platform.opensDatabase keys = true) : Grounds ctx keys platform (.resource tag) url
  | mapped (tag : ResourceTag) {url : String}
      (kind : tag.kind = .item ∨ tag.kind = .quest ∨ tag.kind = .dungeon)
      (held : keys.alt = true) (page : tag.mappedUrl = some url) (entry : ctx.Maps tag url) :
      Grounds ctx keys platform (.resource tag) url

/-! ## Gestures that open an address -/

theorem ResourceTag.openUrl_mem_intents {tag : ResourceTag}
    (opens : Intent.openUrl url ∈ tag.intents keys platform) :
    (keys.alt = true ∧ tag.kind.isMapped = true ∧ tag.mappedUrl = some url) ∨
      (platform.opensDatabase keys = true ∧ tag.databaseUrl = some url) := by
  rw [intents] at opens
  split at opens
  · rename_i mapped
    obtain ⟨alt, kind⟩ := Bool.and_eq_true_iff.mp mapped
    refine Or.inl ⟨alt, kind, ?_⟩
    simp only [openMapped, Option.mem_toList, Option.map_eq_some_iff] at opens
    obtain ⟨page, found, ⟨⟩⟩ := opens
    exact (Option.filter_eq_some_iff.mp found).1
  · rw [List.mem_singleton, openDatabase] at opens
    split at opens
    · rename_i held
      refine Or.inr ⟨held, ?_⟩
      cases page : tag.databaseUrl.filter (!·.isEmpty) with
      | none => simp [page] at opens
      | some address =>
        rw [page] at opens
        obtain ⟨⟩ := opens
        exact (Option.filter_eq_some_iff.mp page).1
    · exact absurd opens nofun

theorem CrossLink.openUrl_notMem_intents {cross : CrossLink} :
    Intent.openUrl url ∉ cross.intents := by
  rw [intents]
  split
  · exact List.not_mem_nil
  · split <;> simp

theorem Checkbox.openUrl_notMem_intents {box : Checkbox} : Intent.openUrl url ∉ box.intents := by
  rw [intents]
  split <;> simp

/-- Only anchors and resources open addresses. -/
theorem Content.openUrl_mem_intents {content : Content}
    (opens : Intent.openUrl url ∈ content.intents keys platform) :
    (∃ link, content = .anchor link ∧ link.external = true ∧ url = link.href) ∨
      ∃ tag, content = .resource tag ∧ Intent.openUrl url ∈ tag.intents keys platform := by
  rw [intents] at opens
  split at opens
  · cases content with
    | anchor link =>
      rw [gesture] at opens
      split at opens
      · rename_i external
        obtain ⟨⟩ := List.mem_singleton.mp opens
        exact Or.inl ⟨link, rfl, external, rfl⟩
      · exact absurd opens List.not_mem_nil
    | resource tag => exact Or.inr ⟨tag, rfl, opens⟩
    | crossGuide cross => exact absurd opens CrossLink.openUrl_notMem_intents
    | checkbox box => exact absurd opens Checkbox.openUrl_notMem_intents
    | image ref =>
      rw [gesture] at opens
      split at opens <;> simp at opens
    | _ => simp [gesture] at opens
  · exact absurd opens List.not_mem_nil

/-! ## What the rules put into anchors and resources -/

namespace Context

/-- An address that is not distrusted is no web address or one of a trusted origin. -/
theorem whitelists_of_distrusts (accepted : ctx.distrusts url = .ok false)
    (web : isWebUrl url = true) : ctx.Whitelists url := by
  obtain ⟨origin, reads⟩ := Option.isSome_iff_exists.mp (isWebUrl_iff_originOf.mp web)
  rw [distrusts, reads] at accepted
  obtain ⟨_ | _, asked, ⟨⟩⟩ := exists_ok_of_bind accepted
  obtain ⟨origins, known, listed⟩ := exists_ok_of_bind asked
  have listed : origins.contains origin = true := Except.ok.inj listed
  exact ⟨origins, origin, need_eq_ok_iff.mp known, reads, List.contains_iff_mem.mp listed⟩

/-- A mapped page that was found stands in the table. -/
theorem entry_of_mappedPage {kind : String} {id : Option String}
    (found : ctx.mappedPage kind id = .ok (some url)) :
    ∃ mapping pages, ctx.mapping = some mapping ∧
      mapping.lookup (.text kind) = some (some pages) ∧
      ∃ own, nonEmpty? id = some own ∧ pages.lookup own = some url := by
  cases id with
  | none => exact absurd found nofun
  | some own =>
  rw [mappedPage] at found
  split at found
  · exact absurd found nofun
  rename_i filled
  obtain ⟨mapping, known, entry⟩ := exists_ok_of_bind found
  have entry : ((mapping.lookup (.text kind)).join.getD []).lookup own = some url :=
    Except.ok.inj entry
  cases ofKind : mapping.lookup (.text kind) with
  | none => simp [ofKind] at entry
  | some pages? =>
    cases pages? with
    | none => simp [ofKind] at entry
    | some pages =>
      rw [ofKind] at entry
      refine ⟨mapping, pages, need_eq_ok_iff.mp known, ofKind, own, ?_, entry⟩
      rw [nonEmpty?, Option.filter_eq_some_iff]
      exact ⟨rfl, by simpa using filled⟩

/-- The mapped page of a resource stands in the table under its kind and identifier. -/
theorem maps_of_resourceTag {tag : Tag} {kind : ResourceKind} {made : ResourceTag}
    (builds : ctx.resourceTag tag kind = .ok made) (page : made.mappedUrl = some url) :
    ctx.Maps made url := by
  simp only [resourceTag] at builds
  split at builds
  · obtain ⟨mappedUrl, mapped, rest⟩ := exists_ok_of_bind builds
    obtain ⟨databaseUrl, -, ⟨⟩⟩ := exists_ok_of_bind rest
    obtain rfl : mappedUrl = some url := page
    obtain ⟨mapping, pages, known, ofKind, own, id, entry⟩ := entry_of_mappedPage mapped
    exact ⟨mapping, pages, own, known, ofKind, id, entry⟩
  · obtain ⟨mappedUrl, ⟨⟩, rest⟩ := exists_ok_of_bind builds
    obtain ⟨databaseUrl, -, ⟨⟩⟩ := exists_ok_of_bind rest
    exact absurd page nofun

end Context

theorem accepted_of_occurs {link : Anchor} (occurs : Occurs ctx (.anchor link)) :
    ctx.distrusts link.href = .ok false ∧ link.external = isWebUrl link.href := by
  generalize same : Content.anchor link = content at occurs
  cases occurs with
  | text inText => cases inText <;> exact absurd same nofun
  | element tag => exact absurd same nofun
  | box made => exact absurd same nofun
  | shown shows =>
    cases shows with
    | anchor name accepted =>
      obtain ⟨⟩ := same
      exact ⟨accepted, rfl⟩
    | link role target leads marked icon =>
      rw [Context.linkContent] at same
      split at same <;> exact absurd same nofun
    | _ => exact absurd same nofun

theorem made_of_occurs {tag : ResourceTag} (occurs : Occurs ctx (.resource tag)) :
    ∃ source kind, ctx.resourceTag source kind = .ok tag := by
  generalize same : Content.resource tag = content at occurs
  cases occurs with
  | text inText => cases inText <;> exact absurd same nofun
  | element tag => exact absurd same nofun
  | box made => exact absurd same nofun
  | @shown site _ _ shows =>
    cases shows with
    | resource role kind known tag made =>
      obtain ⟨⟩ := same
      exact ⟨site.tag, kind, made⟩
    | link role target leads marked icon =>
      rw [Context.linkContent] at same
      split at same <;> exact absurd same nofun
    | _ => exact absurd same nofun

/-! ## Trees -/

/-- Whatever can occur opens addresses on grounds only. -/
theorem grounds_of_occurs {content : Content} (occurs : Occurs ctx content)
    (opens : Intent.openUrl url ∈ content.intents keys platform) :
    Grounds ctx keys platform content url := by
  obtain ⟨link, rfl, external, rfl⟩ | ⟨tag, rfl, byTag⟩ := Content.openUrl_mem_intents opens
  · obtain ⟨accepted, same⟩ := accepted_of_occurs occurs
    exact .anchor link (Context.whitelists_of_distrusts accepted (same ▸ external))
  · obtain ⟨held, kind, page⟩ | ⟨held, page⟩ := ResourceTag.openUrl_mem_intents byTag
    · obtain ⟨source, kind', made⟩ := made_of_occurs occurs
      exact .mapped tag (ResourceKind.isMapped_iff.mp kind) held page
        (Context.maps_of_resourceTag made page)
    · exact .database tag page held

/-- **No gesture opens an address without grounds**, and an anchor whose origin is not on the
whitelist reacts to no gesture; without a whitelist none does. -/
theorem grounds_of_openUrl {document : Markup} {start : Int} {node : Node}
    (member : node ∈ (transform rules ctx document start).1.walk) (keys : Modifiers)
    (platform : Platform) :
    (∀ url, Intent.openUrl url ∈ node.content.intents keys platform →
        Grounds ctx keys platform node.content url) ∧
      (∀ link, node.content = .anchor link → ¬ ctx.Whitelists link.href →
        node.content.intents keys platform = []) := by
  have occurs := occurs_of_mem_walk member
  refine ⟨fun url opens => grounds_of_occurs occurs opens, fun link isAnchor untrusted => ?_⟩
  rw [isAnchor] at occurs ⊢
  obtain ⟨accepted, same⟩ := accepted_of_occurs occurs
  have inside : link.external = false := by
    rw [same, ← Bool.not_eq_true]
    exact fun web => untrusted (Context.whitelists_of_distrusts accepted web)
  simp [Content.intents, Content.gesture, inside]

/-! ### A trusted link within an untrusted one -/

/-- A preview in which one origin is trusted. -/
def Context.trustingOne : Context :=
  { preview with whitelist := some ["https://a.org"] }

/-- A link to that origin within a link to another one. -/
def nestedLinks : Markup :=
  .element ⟨"a", [("href", "https://b.org/")]⟩ [.element ⟨"a", [("href", "https://a.org/x")]⟩ []]

/-- The inner link. -/
def innerLink : Node := Node.leaf (.anchor ⟨"https://a.org/x", true, false⟩)

theorem grounds_of_openUrl_innerLink :
    innerLink ∈ (transform Rule.standard .trustingOne nestedLinks 0).1.walk ∧
      Grounds .trustingOne .none ⟨false⟩ innerLink.content "https://a.org/x" := by
  have walk : (transform Rule.standard .trustingOne nestedLinks 0).1.walk =
      [.mk (.plain none [] none) [innerLink], innerLink] := by
    rfl
  have member : innerLink ∈ (transform Rule.standard .trustingOne nestedLinks 0).1.walk := by
    rw [walk]
    exact List.mem_cons_of_mem _ List.mem_cons_self
  exact ⟨member, (grounds_of_openUrl member .none ⟨false⟩).1 _ List.mem_cons_self⟩

end GuideMarkup
