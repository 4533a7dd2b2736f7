import GuideMarkup.Proofs.Directions
import GuideMarkup.Proofs.Lockstep

/-!
# Proofs/Availability — what a guide changes by being at hand

    link to the guide   ──guide at hand──▸  no download, and a step that the guide has
    any other node      ──guide at hand──▸  the same

The registry is asked for the guide that a reference leads to and for the guide being read, whose
language the databases speak.  A guide that has just become available is not the one being read, so
only references to it see that it is there (`Context.CanOpen.stepTarget?_opens`).  The mark for the
guide being read is no exception: it never leads to a guide of that number.
-/

namespace GuideMarkup

variable {ctx : Context} {registry : Registry} {guide count : Int} {lang : String} {site : Site}

/-- The context with one more guide at hand. -/
def Context.withGuide (ctx : Context) (guide : Int) (info : GuideInfo) : Context :=
  { ctx with registry := ctx.registry.map (·.insert guide info) }

/-- The guide is not at hand, and not the one being read; but it can be made available, and the
reader's progress in it can be asked for. -/
structure Context.CanOpen (ctx : Context) (guide : Int) : Prop where
  absent : ∃ registry, ctx.registry = some registry ∧ registry.lookup guide = none
  notRead : ctx.guide ≠ some (.number guide)
  saved : ctx.saved.isSome

/-! ## Targets -/

/-- A target before and after the guide has become available: it is in another guide, or a download
is no longer needed and the step is one that the guide has. -/
inductive StepTarget.Opens (guide count : Int) : StepTarget → StepTarget → Prop
  | elsewhere (target : StepTarget) (other : target.guide ≠ guide) :
      Opens guide count target target
  | here (target : StepTarget) (step : Int) (leads : target.guide = guide)
      (crosses : target.sameGuide = false) (lacks : target.needsDownload = true)
      (inRange : 0 < count → 0 ≤ step ∧ step < count) :
      Opens guide count target { target with step, needsDownload := false }

/-- A step that is chosen in a guide with steps is one of them, wherever the reader has got to. -/
theorem inRange_chosenStep_of_pos (positive : 0 < count) (number : Int) (saved : Option Int) :
    InRange (some count) (chosenStep number (some count) saved) := by
  have clamped : ∀ n : Int, InRange (some count) (clamp n 1 count) := by
    intro n
    refine ⟨?_, fun total same => ?_⟩
    · rw [clamp]
      omega
    · obtain rfl := Option.some.inj same
      exact Int.min_le_right _ _
  cases saved with
  | none => exact clamped number
  | some reached => exact clamped (reached + 1)

namespace Context.CanOpen

/-- What is known of another guide, or of none, is what was known. -/
theorem guideInfo_of_ne (canOpen : ctx.CanOpen guide) (info : GuideInfo) {own : Option Entry}
    (other : own ≠ some (.number guide)) :
    (ctx.withGuide guide info).guideInfo own = ctx.guideInfo own := by
  obtain ⟨registry, known, -⟩ := canOpen.absent
  cases own with
  | none => rfl
  | some entry =>
    cases entry with
    | blank => rw [guideInfo, guideInfo, withGuide, known]; rfl
    | number n =>
      have differs : (n == guide) = false := by simpa using other
      have same : (registry.insert guide info).lookup n = registry.lookup n := by
        rw [Table.lookup_insert, differs]
        rfl
      rw [guideInfo, guideInfo, withGuide, known]
      exact congrArg Except.ok same

theorem language?_withGuide (canOpen : ctx.CanOpen guide) (info : GuideInfo) :
    (ctx.withGuide guide info).language? = ctx.language? := by
  rw [language?, language?]
  exact congrArg (fun known => known >>= fun found => .ok (found.map GuideInfo.lang))
    (canOpen.guideInfo_of_ne info canOpen.notRead)

/-- A reference to the guide is by its number, and to another guide than the one being read. -/
theorem eq_of_targetGuide? (canOpen : ctx.CanOpen guide) {reference : Int}
    (leads : ctx.targetGuide? reference = some (.number guide)) :
    ctx.isSameGuide reference = false := by
  rw [← Bool.not_eq_true, isSameGuide_iff leads]
  exact canOpen.notRead

/-- What a reference to the guide came to before. -/
theorem stepTarget?_of_absent (canOpen : ctx.CanOpen guide) {reference : Int}
    (leads : ctx.targetGuide? reference = some (.number guide)) (number : Int)
    (stepId : Option Int) :
    ctx.stepTarget? reference number stepId =
      .ok (some ⟨guide, boundedStep number none - 1, false, true⟩) := by
  obtain ⟨registry, known, absent⟩ := canOpen.absent
  have info : ctx.guideInfo (some (.number guide)) = .ok none := by
    rw [guideInfo, known]
    exact congrArg Except.ok absent
  rw [stepTarget?, leads]
  simp only [info, canOpen.eq_of_targetGuide? leads]
  rfl

/-- What a reference to the guide comes to now. -/
theorem exists_stepTarget?_withGuide (canOpen : ctx.CanOpen guide) {reference : Int}
    (leads : ctx.targetGuide? reference = some (.number guide)) (number : Int)
    (stepId : Option Int) :
    ∃ saved, (ctx.withGuide guide ⟨.number count, lang⟩).stepTarget? reference number stepId =
      .ok (some ⟨guide, chosenStep number (if 0 < count then some count else none) saved - 1,
        false, false⟩) := by
  obtain ⟨registry, known, -⟩ := canOpen.absent
  obtain ⟨table, there⟩ := Option.isSome_iff_exists.mp canOpen.saved
  have info : (ctx.withGuide guide ⟨.number count, lang⟩).guideInfo (some (.number guide)) =
      .ok (some ⟨.number count, lang⟩) := by
    rw [guideInfo, withGuide, known]
    refine congrArg Except.ok ?_
    rw [Table.lookup_insert, beq_self_eq_true]
    rfl
  have same : (ctx.withGuide guide ⟨.number count, lang⟩).isSameGuide reference = false :=
    canOpen.eq_of_targetGuide? leads
  have leads : (ctx.withGuide guide ⟨.number count, lang⟩).targetGuide? reference =
      some (.number guide) := leads
  have saved : (ctx.withGuide guide ⟨.number count, lang⟩).savedStep guide =
      .ok (table.lookup guide) := by
    rw [savedStep, withGuide, there]
    rfl
  rw [stepTarget?, leads]
  simp only [info, same]
  -- before, nothing was known of the guide, so the reader's progress was not asked for
  cases resumes : stepId == some resumeMark with
  | false =>
    refine ⟨none, ?_⟩
    simp only [Bool.and_false]
    rfl
  | true =>
    refine ⟨table.lookup guide, ?_⟩
    change (ctx.withGuide guide ⟨.number count, lang⟩).savedStep guide >>= _ = _
    rw [saved]
    cases table.lookup guide <;> rfl

/-- A reference to another guide, or to none, leads where it led. -/
theorem stepTarget?_of_ne (canOpen : ctx.CanOpen guide) (info : GuideInfo) {reference : Int}
    (other : ctx.targetGuide? reference ≠ some (.number guide)) (number : Int)
    (stepId : Option Int) :
    (ctx.withGuide guide info).stepTarget? reference number stepId =
      ctx.stepTarget? reference number stepId := by
  have same : (ctx.withGuide guide info).targetGuide? reference = ctx.targetGuide? reference := rfl
  rw [stepTarget?, stepTarget?, same]
  split
  · rfl
  · rename_i entry leads
    rw [canOpen.guideInfo_of_ne info (leads ▸ other)]
    rfl

/-- **A reference leads where it led**, or its target has become available. -/
theorem stepTarget?_opens (canOpen : ctx.CanOpen guide) (reference number : Int)
    (stepId : Option Int) :
    Matched (Option.Rel (StepTarget.Opens guide count))
      (ctx.stepTarget? reference number stepId)
      ((ctx.withGuide guide ⟨.number count, lang⟩).stepTarget? reference number stepId) := by
  by_cases leads : ctx.targetGuide? reference = some (.number guide)
  · obtain ⟨saved, becomes⟩ := @exists_stepTarget?_withGuide ctx guide count lang canOpen reference
      leads number stepId
    rw [canOpen.stepTarget?_of_absent leads, becomes]
    refine .ok (.some (.here _ _ rfl rfl rfl fun positive => ?_))
    rw [if_pos positive]
    have inRange := inRange_chosenStep_of_pos positive number saved
    exact ⟨Int.sub_nonneg_of_le inRange.1, Int.sub_one_lt_of_le (inRange.2 count rfl)⟩
  · rw [canOpen.stepTarget?_of_ne _ leads]
    cases known : ctx.stepTarget? reference number stepId with
    | error fault => exact .error fault fault
    | ok target? =>
      cases target? with
      | none => exact .ok .none
      | some target =>
        obtain ⟨own, info, total, saved, there, -, -, -, rfl⟩ := target_of_stepTarget? known
        refine .ok (.some (.elsewhere _ ?_))
        rintro rfl
        exact leads there

theorem reference?_opens (canOpen : ctx.CanOpen guide) (tag : Tag) :
    Matched (Option.Rel (StepTarget.Opens guide count)) (ctx.reference? tag)
      ((ctx.withGuide guide ⟨.number count, lang⟩).reference? tag) := by
  rw [reference?, reference?]
  refine Matched.bind_self fun own => ?_
  refine Matched.bind_self fun number => ?_
  split
  · refine Matched.bind_self fun stepId => ?_
    exact canOpen.stepTarget?_opens _ _ stepId
  · exact .ok .none

end Context.CanOpen

/-! ## Contents -/

/-- The link to a step of another guide that a content is. -/
def Content.crossLink? : Content → Option CrossLink
  | .crossGuide cross => some cross
  | _ => none

/-- **A content before and after the guide has become available**: it is no link to the guide and
stays as it is, or it is a link that no longer needs a download, to a step that the guide has. -/
inductive Content.Opens (guide count : Int) : Content → Content → Prop
  | other (content : Content)
      (elsewhere : ∀ cross, content.crossLink? = some cross → cross.link.guide ≠ guide) :
      Opens guide count content content
  | link (cross : CrossLink) (step : Int) (leads : cross.link.guide = guide)
      (lacks : cross.needsDownload = true) (inRange : 0 < count → 0 ≤ step ∧ step < count) :
      Opens guide count (.crossGuide cross)
        (.crossGuide { cross with link := { cross.link with step }, needsDownload := false })

/-- A content that is no link to another guide stays as it is. -/
theorem Content.opens_of_crossLink? {content : Content} (none : content.crossLink? = none) :
    content.Opens guide count content :=
  .other content fun _ isLink => absurd (none.symm.trans isLink) nofun

theorem opens_linkContent {target target' : StepTarget} (opens : target.Opens guide count target')
    (info : GuideInfo) (defaultIcon : Bool) :
    (ctx.linkContent target defaultIcon).Opens guide count
      ((ctx.withGuide guide info).linkContent target' defaultIcon) := by
  cases opens with
  | elsewhere other =>
    refine .other _ fun cross isLink => ?_
    rw [Context.linkContent] at isLink
    split at isLink
    · exact absurd isLink (Option.some_ne_none cross).symm
    · obtain rfl := Option.some.inj isLink
      exact other
  | here step leads crosses lacks inRange =>
    rw [Context.linkContent, Context.linkContent, if_neg (by simp [crosses]),
      if_neg (by simp [crosses])]
    exact .link _ step leads lacks inRange

/-! ## Nodes -/

namespace Node

/-- **A tree before and after the guide has become available**: it has the same shape, and all its
contents are related. -/
inductive Opened (guide count : Int) : Node → Node → Prop
  | mk {content content' : Content} {trees trees' : List Node}
      (own : content.Opens guide count content')
      (below : List.Forall₂ (Opened guide count) trees trees') :
      Opened guide count (.mk content trees) (.mk content' trees')

/-- Contents that are no links to other guides stay as they are. -/
theorem respects_opened : Respects (Opened guide count) (·.crossLink? = none) :=
  fun _ _ _ none below => .mk (Content.opens_of_crossLink? none) below

end Node

open Node (Opened)

/-- Texts have no links. -/
theorem crossLink?_of_occursInText {content : Content} (inText : OccursInText ctx content) :
    content.crossLink? = none := by
  cases inText <;> rfl

/-! ## Decisions -/

/-- Whatever a decision builds has a content of the given kind. -/
def Decision.Makes (P : Content → Prop) : Decision → Prop
  | .decline | .fail _ => True
  | .render _ build => ∀ nodes node, build nodes = .ok node → P node.content
  | .number build => ∀ index node, build index = .ok node → P node.content

theorem Decision.makes_leaf {P : Content → Prop} {content : Content} (own : P content) :
    (Decision.leaf content).Makes P := by
  rintro _ _ ⟨⟩
  exact own

theorem Decision.makes_wrap {P : Content → Prop} {content : Content} (own : P content) :
    (Decision.wrap content).Makes P := by
  rintro _ _ ⟨⟩
  exact own

/-- **Only references to steps make links to other guides.** -/
theorem Rule.makes_unlinked {rule : Rule} (ne : rule ≠ .guideStep) :
    (rule.decide ctx site).Makes (·.crossLink? = none) := by
  cases rule with
  | guideStep => exact absurd rfl ne
  | blankParagraph =>
    rw [decide, decideBlankParagraph]
    split
    · split
      · exact Decision.makes_leaf rfl
      · exact Decision.makes_leaf rfl
    · trivial
  | customTag =>
    rw [decide, decideCustomTag]
    split
    · trivial
    split
    · trivial
    intro nodes node built
    obtain ⟨tag, -, ⟨⟩⟩ := exists_ok_of_bind built
    rfl
  | questBlock =>
    rw [decide, decideQuestBlock]
    split
    · trivial
    · exact Decision.makes_wrap rfl
  | image =>
    rw [decide, decideImage]
    split
    · trivial
    intro nodes node built
    obtain ⟨ref, -, ⟨⟩⟩ := exists_ok_of_bind built
    rfl
  | anchor =>
    rw [decide, decideAnchor]
    split
    · trivial
    intro nodes node built
    obtain ⟨untrusted, -, built⟩ := exists_ok_of_bind built
    split at built
    · obtain ⟨⟩ := built
      rfl
    · obtain ⟨⟩ := built
      rfl
  | taskParagraph =>
    rw [decide, decideTaskParagraph]
    split
    · exact Decision.makes_wrap rfl
    · trivial
  | checkbox =>
    rw [decide, decideCheckbox]
    split
    · intro index node built
      obtain ⟨box, -, ⟨⟩⟩ := exists_ok_of_bind built
      rfl
    · trivial
  | broken =>
    rw [decide, decideBroken]
    split
    · rintro _ _ ⟨⟩
    · trivial

/-- A decision that makes no links to other guides is in step with itself. -/
theorem Decision.Builds.inStep_opened {decision : Decision} (builds : decision.Builds ctx site)
    (unlinked : decision.Makes (·.crossLink? = none)) :
    decision.InStep (Opened guide count) decision := by
  cases decision with
  | decline => exact .decline
  | fail fault => exact .fail fault fault
  | render scope build =>
    obtain ⟨made, built, -⟩ := builds
    refine Node.respects_opened.inStep_render built fun content isMade => ?_
    exact unlinked [] (.mk content (scope.over [])) (by rw [built, isMade]; rfl)
  | number build =>
    obtain ⟨-, built⟩ := builds
    refine .number fun index => ?_
    cases result : build index with
    | error fault => exact .error fault fault
    | ok node =>
      have own := unlinked index node result
      rw [built] at result
      obtain ⟨box, -, rfl⟩ := exists_ok_of_map result
      exact .ok (Node.respects_opened _ _ _ own .nil)

namespace Context.CanOpen

theorem decideGuideStep_opened (canOpen : ctx.CanOpen guide) :
    (decideGuideStep ctx site).InStep (Opened guide count)
      (decideGuideStep (ctx.withGuide guide ⟨.number count, lang⟩) site) := by
  rw [decideGuideStep, decideGuideStep]
  split
  · exact .decline
  have leads := @reference?_opens ctx guide count lang canOpen site.tag
  generalize ctx.reference? site.tag = target,
    (ctx.withGuide guide ⟨.number count, lang⟩).reference? site.tag = target' at leads
  cases leads with
  | error fault fault' => exact .fail fault fault'
  | ok opens =>
    cases opens with
    | none => exact .decline
    | some opens =>
      simp only [withGuide]
      split
      · exact .fail _ _
      · exact .render .all fun _ _ below => .ok (.mk (opens_linkContent opens _ _) below)

theorem decideCustomTag_withGuide (canOpen : ctx.CanOpen guide) (info : GuideInfo) :
    decideCustomTag (ctx.withGuide guide info) site = decideCustomTag ctx site := by
  have address : (ctx.withGuide guide info).databaseUrl = ctx.databaseUrl := by
    funext kind id
    simp only [databaseUrl, canOpen.language?_withGuide]
    rfl
  have tag : (ctx.withGuide guide info).resourceTag = ctx.resourceTag := by
    funext tag kind
    simp only [resourceTag, address]
    rfl
  rw [decideCustomTag, decideCustomTag, tag]

/-- **Every rule decides in step** if the guide becomes available. -/
theorem decide_opened (canOpen : ctx.CanOpen guide) (rule : Rule) :
    (rule.decide ctx site).InStep (Opened guide count)
      (rule.decide (ctx.withGuide guide ⟨.number count, lang⟩) site) := by
  -- the registry is also asked for the language, but that is of the guide being read
  by_cases isLink : rule = .guideStep
  · rw [isLink]
    exact canOpen.decideGuideStep_opened
  · have same : rule.decide (ctx.withGuide guide ⟨.number count, lang⟩) site =
        rule.decide ctx site := by
      cases rule with
      | guideStep => exact absurd rfl isLink
      | customTag => exact canOpen.decideCustomTag_withGuide _
      | _ => rfl
    rw [same]
    exact rule.decide_builds.inStep_opened (Rule.makes_unlinked isLink)

end Context.CanOpen

/-! ## Trees -/

/-- **A guide that becomes available changes the links to it and nothing else**: a document becomes
the same tree with the same counts, but for the links to the guide, which no longer need a download
and lead to a step that it has. -/
theorem opened_transform (canOpen : ctx.CanOpen guide) (rules : List Rule) (count : Int)
    (lang : String) (document : Markup) (start : Int) :
    (transform rules ctx document start).1.Opened guide count
        (transform rules (ctx.withGuide guide ⟨.number count, lang⟩) document start).1 ∧
      (transform rules ctx document start).2 =
        (transform rules (ctx.withGuide guide ⟨.number count, lang⟩) document start).2 := by
  refine transformNode_inStep (fun value pass => ?_)
    (fun _ _ _ below => Node.respects_opened _ _ _ rfl below)
    (fun site => Rule.decideAll_inStep canOpen.decide_opened rules) [] [] document
    (Pass.start start)
  have same := @transformText_congr (ctx.withGuide guide ⟨.number count, lang⟩) ctx rfl rfl rfl rfl
    value pass
  exact Node.respects_opened.transformText (fun _ => crossLink?_of_occursInText) same

/-! ### Three references and an item -/

/-- A reader of guide 7 who has got to the tenth step of guide 5, which is not at hand. -/
def Context.midway : Context :=
  { preview with
    guide := some (.number 7)
    registry := some [(7, ⟨.number 3, "en"⟩)]
    saved := some [(5, 9)] }

/-- A link to where the reader has got to in guide 5, one to the guide being read, one to guide 9,
and an item. -/
def threeReferences : Markup :=
  let link (guide stepId : String) : Markup :=
    .element ⟨"a", [("data-type", "guide-step"), ("guideid", guide), ("stepnumber", "2"),
      ("stepid", stepId)]⟩ []
  .element ⟨"p", []⟩ [link "5" "0", link "0" "0", link "9" "0",
    .element ⟨"span", [("data-type", "custom-tag"), ("type", "item"), ("dofusdbid", "31")]⟩ []]

/-- What guide 5 is once it is at hand. -/
def fourSteps : GuideInfo :=
  ⟨.number 4, "fr"⟩

/-- The link to guide 5 leads to the last of its steps now, and the other links and the address of
the item are as they were. -/
theorem opened_transform_threeReferences :
    Context.midway.CanOpen 5 ∧
      (transform Rule.standard .midway threeReferences 0).1.children.map Node.content =
        [.crossGuide ⟨⟨5, 1, true, false⟩, true, false, none⟩,
          .sameGuide ⟨7, 1, true, false⟩,
          .crossGuide ⟨⟨9, 1, true, false⟩, true, false, none⟩,
          .resource ⟨.item, "", some "31", some "https://dofusdb.fr/en/database/object/31", none,
            ResourceKind.item.title false, false⟩] ∧
      ((transform Rule.standard (Context.midway.withGuide 5 fourSteps)
        threeReferences 0).1.children.map Node.content).head? =
          some (.crossGuide ⟨⟨5, 3, true, false⟩, false, false, none⟩) ∧
      (transform Rule.standard .midway threeReferences 0).1.Opened 5 4
        (transform Rule.standard (Context.midway.withGuide 5 fourSteps) threeReferences 0).1 := by
  have canOpen : Context.midway.CanOpen 5 := ⟨⟨_, rfl, rfl⟩, nofun, rfl⟩
  exact ⟨canOpen, rfl, rfl, (opened_transform canOpen Rule.standard 4 "fr" threeReferences 0).1⟩

end GuideMarkup
