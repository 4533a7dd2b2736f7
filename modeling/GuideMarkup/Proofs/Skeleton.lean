import GuideMarkup.Proofs.Lockstep

/-!
# Proofs/Skeleton — what of a tree does not depend on the reader

    whitelist, guide, registry, links       ↦  the skeleton of the tree, and the counts
    step, checked, saved, mapping, platform ↦  the fields that the skeleton leaves out

Two contexts agree (`Context.Agrees`) if they differ only in what belongs to one reader: how far
they have got, what they have checked and the platform they are on.  Every rule decides in step
under contexts that agree, so the trees have one skeleton (`transformNode_of_agrees`).
-/

namespace GuideMarkup

/-! ## Skeletons -/

/-- A target without its step. -/
def StepTarget.skeleton (target : StepTarget) : StepTarget :=
  { target with step := 0 }

/-- A link without its step. -/
def StepLink.skeleton (link : StepLink) : StepLink :=
  { link with step := 0, disabled := false }

/-- A resource without what depends on the mapped pages and the platform. -/
def ResourceTag.skeleton (tag : ResourceTag) : ResourceTag :=
  { tag with mappedUrl := none, title := "", disabled := false }

namespace Content

/-- A content without the fields that depend on the reader. -/
def skeleton : Content → Content
  | .hiddenLink _ => .hiddenLink ""
  | .position token => .position { token with copyText := "", disabled := false }
  | .sameGuide link => .sameGuide link.skeleton
  | .crossGuide cross => .crossGuide { cross with link := cross.link.skeleton }
  | .resource tag => .resource tag.skeleton
  | .image ref => .image { ref with disabled := false }
  | .anchor link => .anchor { link with disabled := false }
  | .checkbox box => .checkbox ⟨box.index, false, false, none, none⟩
  | content => content

end Content

namespace Node

mutual

/-- **The skeleton of a tree**: its shape, and what its contents do not owe to the reader. -/
def skeleton : Node → Node
  | .mk content children => .mk content.skeleton (skeletonAll children)

/-- The skeletons of the trees of a list. -/
def skeletonAll : List Node → List Node
  | [] => []
  | tree :: rest => skeleton tree :: skeletonAll rest

end

/-- Two trees have the same skeleton. -/
def Alike (tree tree' : Node) : Prop :=
  tree.skeleton = tree'.skeleton

theorem skeletonAll_of_forall₂ {trees trees' : List Node}
    (alike : List.Forall₂ Alike trees trees') :
    skeletonAll trees = skeletonAll trees' := by
  induction alike with
  | nil => rfl
  | cons first _ ih => rw [skeletonAll, skeletonAll, ih, show _ = _ from first]

theorem alike_mk {content content' : Content} {trees trees' : List Node}
    (own : content.skeleton = content'.skeleton) (below : List.Forall₂ Alike trees trees') :
    Alike (mk content trees) (mk content' trees') := by
  rw [Alike, skeleton, skeleton, own, skeletonAll_of_forall₂ below]

theorem alike_leaf {content content' : Content} (own : content.skeleton = content'.skeleton) :
    Alike (leaf content) (leaf content') :=
  alike_mk own .nil

theorem forall₂_alike_refl (trees : List Node) : List.Forall₂ Alike trees trees :=
  List.forall₂_same.mpr fun _ _ => rfl

end Node

open Node (Alike)

namespace Decision

theorem inStep_leaf {content content' : Content} (own : content.skeleton = content'.skeleton) :
    (Decision.leaf content).InStep Alike (Decision.leaf content') :=
  .render .nothing fun _ _ _ => .ok (Node.alike_leaf own)

theorem inStep_wrap {content content' : Content} (own : content.skeleton = content'.skeleton) :
    (Decision.wrap content).InStep Alike (Decision.wrap content') :=
  .render .all fun _ _ below => .ok (Node.alike_mk own below)

end Decision

/-! ## Contexts that agree -/

/-- **Two contexts agree**: they are the same as far as the skeleton goes, and no table of the
reader's is missing in either. -/
structure Context.Agrees (ctx ctx' : Context) : Prop where
  whitelist : ctx.whitelist = ctx'.whitelist
  guide : ctx.guide = ctx'.guide
  registry : ctx.registry = ctx'.registry
  links : ctx.links = ctx'.links
  checked : ctx.checked.isSome ∧ ctx'.checked.isSome
  mapping : ctx.mapping.isSome ∧ ctx'.mapping.isSome
  saved : ctx.saved.isSome ∧ ctx'.saved.isSome

namespace Context.Agrees

variable {ctx ctx' : Context}

/-- A table that is there can be used. -/
theorem exists_need {α : Type} (name : TableName) {known : Option α} (there : known.isSome) :
    ∃ table, need name known = .ok table := by
  obtain ⟨table, rfl⟩ := Option.isSome_iff_exists.mp there
  exact ⟨table, rfl⟩

theorem distrusts (agrees : ctx.Agrees ctx') (url : String) :
    ctx.distrusts url = ctx'.distrusts url := by
  simp only [Context.distrusts, allows, agrees.whitelist]

theorem hides (agrees : ctx.Agrees ctx') (text : String) : ctx.hides text = ctx'.hides text := by
  simp only [Context.hides, agrees.distrusts]

theorem guideInfo (agrees : ctx.Agrees ctx') (guide : Option Entry) :
    ctx.guideInfo guide = ctx'.guideInfo guide := by
  cases guide <;> simp only [Context.guideInfo, agrees.registry]

theorem language? (agrees : ctx.Agrees ctx') : ctx.language? = ctx'.language? := by
  simp only [Context.language?, agrees.guide, agrees.guideInfo]

theorem databaseUrl (agrees : ctx.Agrees ctx') (kind : ResourceKind) (id : Option String) :
    ctx.databaseUrl kind id = ctx'.databaseUrl kind id := by
  simp only [Context.databaseUrl, agrees.links, agrees.language?]

theorem savedStep (agrees : ctx.Agrees ctx') (guide : Int) :
    Matched (fun _ _ => True) (ctx.savedStep guide) (ctx'.savedStep guide) := by
  obtain ⟨table, there⟩ := exists_need .saved agrees.saved.1
  obtain ⟨table', there'⟩ := exists_need .saved agrees.saved.2
  rw [Context.savedStep, Context.savedStep, there, there']
  exact .ok trivial

theorem mappedPage (agrees : ctx.Agrees ctx') (kind : String) (id : Option String) :
    Matched (fun _ _ => True) (ctx.mappedPage kind id) (ctx'.mappedPage kind id) := by
  cases id with
  | none => exact .ok trivial
  | some id =>
    obtain ⟨table, there⟩ := exists_need .mapping agrees.mapping.1
    obtain ⟨table', there'⟩ := exists_need .mapping agrees.mapping.2
    rw [Context.mappedPage, Context.mappedPage, there, there']
    split <;> exact .ok trivial

/-! ## What the rules look up -/

theorem stepTarget? (agrees : ctx.Agrees ctx') (guide number : Int) (stepId : Option Int) :
    Matched (fun t t' => t.map StepTarget.skeleton = t'.map StepTarget.skeleton)
      (ctx.stepTarget? guide number stepId) (ctx'.stepTarget? guide number stepId) := by
  have target : ctx.targetGuide? guide = ctx'.targetGuide? guide := by
    rw [targetGuide?, targetGuide?, agrees.guide]
  have same : ctx.isSameGuide guide = ctx'.isSameGuide guide := by
    rw [isSameGuide, isSameGuide, agrees.guide]
  rw [Context.stepTarget?, Context.stepTarget?, target]
  split
  · exact .ok rfl
  rename_i entry _
  rw [agrees.guideInfo]
  refine Matched.bind_self fun info => ?_
  refine Matched.bind_self fun target => ?_
  refine Matched.bind_self fun total => ?_
  simp only
  split
  · refine (agrees.savedStep target).bind fun reached reached' _ => ?_
    rw [same]
    exact .ok rfl
  · rw [same]
    exact .ok rfl

theorem reference? (agrees : ctx.Agrees ctx') (tag : Tag) :
    Matched (fun t t' => t.map StepTarget.skeleton = t'.map StepTarget.skeleton)
      (ctx.reference? tag) (ctx'.reference? tag) := by
  rw [Context.reference?, Context.reference?]
  refine Matched.bind_self fun guide => ?_
  refine Matched.bind_self fun number => ?_
  split
  · refine Matched.bind_self fun stepId => ?_
    exact agrees.stepTarget? _ _ stepId
  · exact .ok rfl

theorem skeleton_linkContent {target target' : StepTarget}
    (same : target.skeleton = target'.skeleton) (defaultIcon : Bool) :
    (ctx.linkContent target defaultIcon).skeleton =
      (ctx'.linkContent target' defaultIcon).skeleton := by
  obtain ⟨guide, step, sameGuide, needsDownload⟩ := target
  obtain ⟨guide', step', sameGuide', needsDownload'⟩ := target'
  obtain ⟨⟩ := same
  cases sameGuide <;> rfl

theorem resourceTag (agrees : ctx.Agrees ctx') (tag : Tag) (kind : ResourceKind) :
    Matched (fun made made' => made.skeleton = made'.skeleton)
      (ctx.resourceTag tag kind) (ctx'.resourceTag tag kind) := by
  simp only [Context.resourceTag, agrees.databaseUrl]
  split
  · refine (agrees.mappedPage kind.name _).bind fun page page' _ => ?_
    refine Matched.bind_self fun url => ?_
    exact .ok rfl
  · refine Matched.bind_self fun page => ?_
    refine Matched.bind_self fun url => ?_
    exact .ok rfl

theorem image (agrees : ctx.Agrees ctx') (tag : Tag) :
    Matched (fun ref ref' => (Content.image ref).skeleton = (Content.image ref').skeleton)
      (ctx.links.image ctx.disabled tag) (ctx'.links.image ctx'.disabled tag) := by
  rw [← agrees.links]
  simp only [Links.image]
  refine Matched.bind_self fun proxied => ?_
  exact .ok rfl

theorem checkbox (agrees : ctx.Agrees ctx') (index : Int) :
    Matched (fun box box' => (Content.checkbox box).skeleton = (Content.checkbox box').skeleton)
      (ctx.checkbox index) (ctx'.checkbox index) := by
  obtain ⟨table, there⟩ := exists_need .checked agrees.checked.1
  obtain ⟨table', there'⟩ := exists_need .checked agrees.checked.2
  rw [Context.checkbox, Context.checkbox, Context.isChecked, Context.isChecked, there, there']
  split <;> split <;> exact .ok rfl

/-! ## What the rules decide -/

variable {site : Site}

theorem decideGuideStep (agrees : ctx.Agrees ctx') :
    (decideGuideStep ctx site).InStep Alike (decideGuideStep ctx' site) := by
  rw [GuideMarkup.decideGuideStep, GuideMarkup.decideGuideStep]
  split
  · exact .decline
  have leads := agrees.reference? site.tag
  generalize ctx.reference? site.tag = target, ctx'.reference? site.tag = target' at leads
  cases leads with
  | error fault fault' => exact .fail fault fault'
  | @ok target target' same =>
    cases target with
    | none =>
      obtain rfl := Option.map_eq_none_iff.mp same.symm
      exact .decline
    | some target =>
      obtain ⟨target', rfl, skeleton⟩ := Option.map_eq_some_iff.mp same.symm
      simp only [agrees.links]
      split
      · exact .fail _ _
      · exact Decision.inStep_wrap (skeleton_linkContent skeleton.symm _)

theorem decideCustomTag (agrees : ctx.Agrees ctx') :
    (decideCustomTag ctx site).InStep Alike (decideCustomTag ctx' site) := by
  rw [GuideMarkup.decideCustomTag, GuideMarkup.decideCustomTag]
  split
  · exact .decline
  split
  · exact .decline
  refine .render .first fun nodes nodes' below => ?_
  exact (agrees.resourceTag site.tag _).bind fun made made' same =>
    .ok (Node.alike_mk (congrArg Content.resource same) below)

theorem decideImage (agrees : ctx.Agrees ctx') :
    (decideImage ctx site).InStep Alike (decideImage ctx' site) := by
  rw [GuideMarkup.decideImage, GuideMarkup.decideImage]
  split
  · exact .decline
  refine .render .nothing fun nodes nodes' _ => ?_
  exact (agrees.image site.tag).bind fun ref ref' same => .ok (Node.alike_leaf same)

theorem decideAnchor (agrees : ctx.Agrees ctx') :
    (decideAnchor ctx site).InStep Alike (decideAnchor ctx' site) := by
  rw [GuideMarkup.decideAnchor, GuideMarkup.decideAnchor]
  split
  · exact .decline
  refine .render .all fun nodes nodes' below => ?_
  rw [agrees.distrusts]
  refine Matched.bind_self fun untrusted => ?_
  split
  · exact .ok (Node.alike_mk rfl below)
  · exact .ok (Node.alike_mk rfl below)

theorem decideCheckbox (agrees : ctx.Agrees ctx') :
    (decideCheckbox ctx site).InStep Alike (decideCheckbox ctx' site) := by
  rw [GuideMarkup.decideCheckbox, GuideMarkup.decideCheckbox]
  split
  · refine .number fun index => ?_
    exact (agrees.checkbox index).bind fun box box' same => .ok (Node.alike_leaf same)
  · exact .decline

/-- **Every rule decides in step** under contexts that agree. -/
theorem decide (agrees : ctx.Agrees ctx') (rule : Rule) :
    (rule.decide ctx site).InStep Alike (rule.decide ctx' site) := by
  cases rule with
  | guideStep => exact agrees.decideGuideStep
  | customTag => exact agrees.decideCustomTag
  | image => exact agrees.decideImage
  | anchor => exact agrees.decideAnchor
  | checkbox => exact agrees.decideCheckbox
  | blankParagraph =>
    rw [Rule.decide, Rule.decide, decideBlankParagraph]
    split
    · split <;> exact Decision.inStep_leaf rfl
    · exact .decline
  | questBlock =>
    rw [Rule.decide, Rule.decide, decideQuestBlock]
    split
    · exact .decline
    · exact Decision.inStep_wrap rfl
  | taskParagraph =>
    rw [Rule.decide, Rule.decide, decideTaskParagraph]
    split
    · exact Decision.inStep_wrap rfl
    · exact .decline
  | broken =>
    rw [Rule.decide, Rule.decide, decideBroken]
    split
    · exact .render .all fun _ _ _ => .error _ _
    · exact .decline

/-! ## Texts -/

theorem forall₂_pieceNodes (piece : Piece) :
    List.Forall₂ Alike (pieceNodes ctx piece) (pieceNodes ctx' piece) := by
  cases piece with
  | plain text => exact Node.forall₂_alike_refl _
  | coordinate found =>
    rw [pieceNodes, pieceNodes]
    refine List.rel_append (Node.forall₂_alike_refl _) (.cons ?_ (Node.forall₂_alike_refl _))
    exact Node.alike_leaf rfl

theorem forall₂_pieces : ∀ pieces : List Piece,
    List.Forall₂ Alike (pieces.flatMap (pieceNodes ctx)) (pieces.flatMap (pieceNodes ctx'))
  | [] => .nil
  | piece :: rest => List.rel_append (forall₂_pieceNodes piece) (forall₂_pieces rest)

theorem transformText (agrees : ctx.Agrees ctx') (value : String) (pass : Pass) :
    Alike (transformText ctx value pass).1 (transformText ctx' value pass).1 ∧
      (transformText ctx value pass).2 = (transformText ctx' value pass).2 := by
  rw [GuideMarkup.transformText, GuideMarkup.transformText, textNode, textNode, agrees.hides]
  cases ctx'.hides value with
  | error fault => exact ⟨rfl, rfl⟩
  | ok hidden =>
    cases hidden with
    | true => exact ⟨Node.alike_leaf rfl, rfl⟩
    | false =>
      cases split? value.toList with
      | none => exact ⟨rfl, rfl⟩
      | some pieces => exact ⟨Node.alike_mk rfl (forall₂_pieces pieces), rfl⟩

end Context.Agrees

/-! ## Trees -/

/-- **Contexts that agree make trees of one skeleton**, with the same counts. -/
theorem transformNode_of_agrees {ctx ctx' : Context} (agrees : ctx.Agrees ctx') (rules : List Rule)
    (ancestors : List Tag) (following : List Markup) (node : Markup) (pass : Pass) :
    Alike (transformNode rules ctx ancestors following node pass).1
        (transformNode rules ctx' ancestors following node pass).1 ∧
      (transformNode rules ctx ancestors following node pass).2 =
        (transformNode rules ctx' ancestors following node pass).2 :=
  transformNode_inStep agrees.transformText (fun _ _ _ below => Node.alike_mk rfl below)
    (fun _ => Rule.decideAll_inStep agrees.decide rules) ancestors following node pass

/-- **What belongs to one reader shows in no skeleton**: for readers of the same guide, a document
becomes trees of one skeleton, with the same number at the end and as many failures. -/
theorem skeleton_transform {ctx ctx' : Context} (agrees : ctx.Agrees ctx') (rules : List Rule)
    (document : Markup) (start : Int) :
    (transform rules ctx document start).1.skeleton =
        (transform rules ctx' document start).1.skeleton ∧
      (transform rules ctx document start).2 = (transform rules ctx' document start).2 :=
  transformNode_of_agrees agrees rules [] [] document (Pass.start start)

/-! ### Two readers of a guide that has an item without an address -/

/-- A guide for which the addresses of items cannot be made. -/
def Context.unaddressed : Context :=
  { preview with
    guide := some (.number 1)
    links := { Links.standard with foreignTemplate := .text "https://db/\x7boops\x7d" } }

/-- A reader at the first step of the guide, where two boxes are checked. -/
def Context.newcomer : Context :=
  { unaddressed with step := some (.number 0), checked := some [0, 1] }

/-- A reader of a preview of the same guide, on another platform and with other tables. -/
def Context.onlooker : Context :=
  { unaddressed with
    disabled := true, platform := ⟨true⟩, travelCopy := true, hiddenLinkText := "not yours"
    mapping := some [(.text "quest", some [("3", "https://page")])], saved := some [(1, 7)] }

/-- An item with an identifier that has a box among its parts, and a box behind it. -/
def boxedItem : Markup :=
  let box : Markup := .element ⟨"input", [("type", "checkbox")]⟩ []
  .element ⟨"div", []⟩
    [.element ⟨"span", [("data-type", "custom-tag"), ("type", "wakfu-item"), ("wakfuid", "7")]⟩
      [.element ⟨"br", []⟩ [], box], box]

/-- The item fails for both readers, and their trees have one skeleton. -/
theorem skeleton_transform_boxedItem :
    Context.newcomer.Agrees .onlooker ∧
      (transform Rule.standard .newcomer boxedItem 0).2 = ⟨2, 1⟩ ∧
      (transform Rule.standard .onlooker boxedItem 0).2 = ⟨2, 1⟩ ∧
      (transform Rule.standard .newcomer boxedItem 0).1.skeleton =
        (transform Rule.standard .onlooker boxedItem 0).1.skeleton := by
  have agrees : Context.newcomer.Agrees .onlooker :=
    ⟨rfl, rfl, rfl, rfl, ⟨rfl, rfl⟩, ⟨rfl, rfl⟩, ⟨rfl, rfl⟩⟩
  have counts : (transform Rule.standard .newcomer boxedItem 0).2 = ⟨2, 1⟩ := by rfl
  obtain ⟨same, equal⟩ := skeleton_transform agrees Rule.standard boxedItem 0
  exact ⟨agrees, counts, equal.symm.trans counts, same⟩

end GuideMarkup
