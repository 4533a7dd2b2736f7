import GuideMarkup.Proofs.Visit

/-!
# Proofs/Occurrence — what can occur in an interactive tree

`Shows` lists what the rules show, each content with the conditions under which it is chosen and
the children that are shown with it; `Rule.shows_of_decideAll` says that there is nothing else, and
`Rule.box_of_decideAll` does the same for numbered boxes.  `Occurs` adds what texts become, and
`occurs_of_mem_walk` carries the list to every node of every tree: a statement about all nodes of
all trees is a case analysis on it.
-/

namespace GuideMarkup

variable {rules : List Rule} {ctx : Context}

/-! ## What rules show -/

/-- The content that an element is shown with, and which of its children go with it. -/
inductive Shows (ctx : Context) (site : Site) : Scope → Content → Prop
  | lineBreak (blank : (Markup.element site.tag site.children).isBlankParagraph = true)
      (last : Markup.blankRun site.following = 0) : Shows ctx site .nothing .lineBreak
  | dropped (blank : (Markup.element site.tag site.children).isBlankParagraph = true)
      (more : Markup.blankRun site.following ≠ 0) : Shows ctx site .nothing .dropped
  | link (role : site.tag.role? = some "guide-step") (target : StepTarget)
      (leads : ctx.reference? site.tag = .ok (some target)) (marked : Bool)
      (icon : hasMarkedImage ctx.links.iconMarker site.children = .ok marked) :
      Shows ctx site .all (ctx.linkContent target !marked)
  | resource (role : site.tag.role? = some "custom-tag") (kind : ResourceKind)
      (known : ResourceKind.ofMarkup? (site.tag.attr "type") = some kind) (tag : ResourceTag)
      (made : ctx.resourceTag site.tag kind = .ok tag) : Shows ctx site .first (.resource tag)
  | quest (role : site.tag.role? = some "quest-block") :
      Shows ctx site .all (.quest site.tag.questBlock)
  | image (name : site.tag.name = "img") (ref : ImageRef)
      (made : ctx.links.image ctx.disabled site.tag = .ok ref) :
      Shows ctx site .nothing (.image ref)
  | defused (name : site.tag.name = "a")
      (untrusted : ctx.distrusts (site.tag.attr "href") = .ok true) :
      Shows ctx site .all (.plain none [] none)
  | anchor (name : site.tag.name = "a")
      (accepted : ctx.distrusts (site.tag.attr "href") = .ok false) : Shows ctx site .all
        (.anchor ⟨site.tag.attr "href", isWebUrl (site.tag.attr "href"), ctx.disabled⟩)
  | flattened (name : site.tag.name = "p") (place : inTaskItem site.ancestors = true) :
      Shows ctx site .all .flattened

/-- What a decision shows is on the list, over the images of all children that were visited; what
it numbers is a box. -/
def Decision.Listed (ctx : Context) (site : Site) : Decision → Prop
  | .decline | .fail _ => True
  | .render scope build => ∀ nodes node, (scope = .nothing → nodes = []) → build nodes = .ok node →
    ∃ content, Shows ctx site scope content ∧ node = .mk content nodes
  | .number build => ∀ index node, build index = .ok node → site.tag.isCheckbox = true ∧
    ∃ box, ctx.checkbox index = .ok box ∧ node = Node.leaf (.checkbox box)

/-- The images that a node is built over: none, if no child was to be visited. -/
def Scope.over : Scope → List Node → List Node
  | .nothing, _ => []
  | .first, nodes | .all, nodes => nodes

/-- **What a decision builds** does not depend on what the children have become: it is one content
from the list over their images, or a fault.  What it numbers is the box of the context. -/
def Decision.Builds (ctx : Context) (site : Site) : Decision → Prop
  | .decline | .fail _ => True
  | .render scope build => ∃ made : Except Fault Content,
      (∀ nodes, build nodes = made.map fun content => .mk content (scope.over nodes)) ∧
        ∀ content, made = .ok content → Shows ctx site scope content
  | .number build => site.tag.isCheckbox = true ∧
      ∀ index, build index = (ctx.checkbox index).map fun box => Node.leaf (.checkbox box)

/-- What follows from a chain of look-ups that succeeded: the first one succeeded, and so did the
rest with its value. -/
theorem exists_ok_of_bind {ε α β : Type} {first : Except ε α} {next : α → Except ε β} {result : β}
    (succeeds : (first >>= next) = .ok result) :
    ∃ value, first = .ok value ∧ next value = .ok result := by
  cases first with
  | error fault => exact absurd succeeds nofun
  | ok value => exact ⟨value, rfl, succeeds⟩

/-- A result that was mapped came from a result. -/
theorem exists_ok_of_map {ε α β : Type} {result : Except ε α} {read : α → β} {image : β}
    (succeeds : result.map read = .ok image) :
    ∃ value, result = .ok value ∧ read value = image := by
  cases result with
  | error fault => exact absurd succeeds nofun
  | ok value => exact ⟨value, rfl, Except.ok.inj succeeds⟩

section Rules

variable {site : Site} {content : Content}

/-- What is built is on the list. -/
theorem Decision.Builds.listed {decision : Decision} (builds : decision.Builds ctx site) :
    decision.Listed ctx site := by
  cases decision with
  | decline | fail => trivial
  | render scope build =>
    obtain ⟨made, built, shows⟩ := builds
    intro nodes node none result
    rw [built] at result
    obtain ⟨content, isMade, rfl⟩ := exists_ok_of_map result
    refine ⟨content, shows content isMade, ?_⟩
    cases scope with
    | nothing => rw [none rfl, Scope.over]
    | first | all => rfl
  | number build =>
    obtain ⟨isBox, built⟩ := builds
    intro index node result
    rw [built] at result
    obtain ⟨box, made, rfl⟩ := exists_ok_of_map result
    exact ⟨isBox, box, made, rfl⟩

theorem Decision.builds_leaf (shows : Shows ctx site .nothing content) :
    (Decision.leaf content).Builds ctx site :=
  ⟨.ok content, fun _ => rfl, by rintro _ ⟨⟩; exact shows⟩

theorem Decision.builds_wrap (shows : Shows ctx site .all content) :
    (Decision.wrap content).Builds ctx site :=
  ⟨.ok content, fun _ => rfl, by rintro _ ⟨⟩; exact shows⟩

theorem decideBlankParagraph_builds : (decideBlankParagraph site).Builds ctx site := by
  rw [decideBlankParagraph]
  split
  · rename_i blank
    split
    · rename_i last
      exact Decision.builds_leaf (.lineBreak blank last)
    · rename_i more
      exact Decision.builds_leaf (.dropped blank more)
  · trivial

theorem decideGuideStep_builds : (decideGuideStep ctx site).Builds ctx site := by
  rw [decideGuideStep]
  split
  · trivial
  rename_i role
  split
  · trivial
  · trivial
  rename_i target leads
  split
  · trivial
  rename_i marked icon
  exact Decision.builds_wrap (.link (by simpa using role) target leads marked icon)

theorem decideCustomTag_builds : (decideCustomTag ctx site).Builds ctx site := by
  rw [decideCustomTag]
  split
  · trivial
  rename_i role
  split
  · trivial
  rename_i kind known
  refine ⟨(ctx.resourceTag site.tag kind).map .resource, fun nodes => ?_, fun content made => ?_⟩
  · cases ctx.resourceTag site.tag kind <;> rfl
  · obtain ⟨tag, builds, rfl⟩ := exists_ok_of_map made
    exact .resource (by simpa using role) kind known tag builds

theorem decideQuestBlock_builds : (decideQuestBlock site).Builds ctx site := by
  rw [decideQuestBlock]
  split
  · trivial
  rename_i role
  exact Decision.builds_wrap (.quest (by simpa using role))

theorem decideImage_builds : (decideImage ctx site).Builds ctx site := by
  rw [decideImage]
  split
  · trivial
  rename_i name
  refine ⟨(ctx.links.image ctx.disabled site.tag).map .image, fun nodes => ?_,
    fun content made => ?_⟩
  · cases ctx.links.image ctx.disabled site.tag <;> rfl
  · obtain ⟨ref, builds, rfl⟩ := exists_ok_of_map made
    exact .image (by simpa using name) ref builds

theorem decideAnchor_builds : (decideAnchor ctx site).Builds ctx site := by
  rw [decideAnchor]
  split
  · trivial
  rename_i name
  have name : site.tag.name = "a" := by simpa using name
  refine ⟨(ctx.distrusts (site.tag.attr "href")).map fun untrusted =>
    if untrusted then .plain none [] none
    else .anchor ⟨site.tag.attr "href", isWebUrl (site.tag.attr "href"), ctx.disabled⟩,
    fun nodes => ?_, fun content made => ?_⟩
  · obtain _ | _ | _ := ctx.distrusts (site.tag.attr "href") <;> rfl
  · obtain ⟨_ | _, asked, rfl⟩ := exists_ok_of_map made
    · exact .anchor name asked
    · exact .defused name asked

theorem decideTaskParagraph_builds : (decideTaskParagraph site).Builds ctx site := by
  rw [decideTaskParagraph]
  split
  · rename_i place
    obtain ⟨name, place⟩ := Bool.and_eq_true_iff.mp place
    exact Decision.builds_wrap (.flattened (by simpa using name) place)
  · trivial

theorem decideCheckbox_builds : (decideCheckbox ctx site).Builds ctx site := by
  rw [decideCheckbox]
  split
  · rename_i isBox
    exact ⟨isBox, fun index => bind_pure_comp _ (ctx.checkbox index)⟩
  · trivial

theorem decideBroken_builds : (decideBroken site).Builds ctx site := by
  rw [decideBroken]
  split
  · exact ⟨.error .broken, fun _ => rfl, nofun⟩
  · trivial

/-- **Every rule builds what is on the list.** -/
theorem Rule.decide_builds (rule : Rule) : (rule.decide ctx site).Builds ctx site := by
  cases rule with
  | blankParagraph => exact decideBlankParagraph_builds
  | guideStep => exact decideGuideStep_builds
  | customTag => exact decideCustomTag_builds
  | questBlock => exact decideQuestBlock_builds
  | image => exact decideImage_builds
  | anchor => exact decideAnchor_builds
  | taskParagraph => exact decideTaskParagraph_builds
  | checkbox => exact decideCheckbox_builds
  | broken => exact decideBroken_builds

theorem Rule.decideAll_builds : ∀ rules : List Rule, (decideAll ctx site rules).Builds ctx site
  | [] => trivial
  | rule :: rest => by
    rw [decideAll]
    split
    · exact decideAll_builds rest
    · exact decide_builds rule

/-- **What the rules show is on the list**, over the images of all children that were visited. -/
theorem Rule.shows_of_decideAll {scope : Scope} {build : List Node → Except Fault Node}
    {nodes : List Node} {node : Node} (decided : decideAll ctx site rules = .render scope build)
    (none : scope = .nothing → nodes = []) (built : build nodes = .ok node) :
    ∃ content, Shows ctx site scope content ∧ node = .mk content nodes := by
  have listed := (@decideAll_builds ctx site rules).listed
  rw [decided] at listed
  exact listed nodes node none built

/-- **What the rules number is a box.** -/
theorem Rule.box_of_decideAll {build : Int → Except Fault Node} {index : Int} {node : Node}
    (decided : decideAll ctx site rules = .number build) (built : build index = .ok node) :
    site.tag.isCheckbox = true ∧
      ∃ box, ctx.checkbox index = .ok box ∧ node = Node.leaf (.checkbox box) := by
  have listed := (@decideAll_builds ctx site rules).listed
  rw [decided] at listed
  exact listed index node built

end Rules

/-! ## What can occur -/

/-- What a text can become. -/
inductive OccursInText (ctx : Context) : Content → Prop
  | plain (value : Option String) : OccursInText ctx (.plain none [] value)
  | hidden : OccursInText ctx (.hiddenLink ctx.hiddenLinkText)
  | position (found : Coordinate) : OccursInText ctx (.position (ctx.positionToken found))

/-- What can occur in an interactive tree. -/
inductive Occurs (ctx : Context) : Content → Prop
  | text {content : Content} (inText : OccursInText ctx content) : Occurs ctx content
  | element (tag : Tag) : Occurs ctx (.plain (some tag.name) tag.attributes none)
  | shown {site : Site} {scope : Scope} {content : Content} (shows : Shows ctx site scope content) :
      Occurs ctx content
  | box {index : Int} {box : Checkbox} (made : ctx.checkbox index = .ok box) :
      Occurs ctx (.checkbox box)

namespace Node

/-- The nodes of the trees of a list are the nodes of its trees. -/
theorem mem_walkAll {node : Node} :
    ∀ {trees : List Node}, node ∈ walkAll trees ↔ ∃ tree ∈ trees, node ∈ tree.walk
  | [] => by simp [walkAll]
  | tree :: rest => by
    rw [walkAll, List.mem_append, mem_walkAll]
    simp

/-- What stands at the end of a path is one of the nodes of the tree. -/
theorem mem_walk_of_at? {path : List Int} {tree node : Node} (there : tree.at? path = some node) :
    node ∈ tree.walk := by
  induction path generalizing tree with
  | nil =>
    rw [at?] at there
    obtain rfl := Option.some.inj there
    cases tree
    rw [walk]
    exact List.mem_cons_self
  | cons index path ih =>
    obtain ⟨content, trees⟩ := tree
    rw [at?] at there
    obtain ⟨i, -, there⟩ := Option.bind_eq_some_iff.mp there
    obtain ⟨child, found, there⟩ := Option.bind_eq_some_iff.mp there
    rw [walk]
    exact List.mem_cons_of_mem _ (mem_walkAll.mpr ⟨child, List.mem_of_getElem? found, ih there⟩)

/-- A property of contents holds everywhere in some trees. -/
def Everywhere (P : Content → Prop) (trees : List Node) : Prop :=
  ∀ tree ∈ trees, ∀ node ∈ tree.walk, P node.content

section Everywhere

variable {P Q : Content → Prop} {content : Content} {trees others : List Node}

theorem everywhere_nil : Everywhere P [] :=
  fun _ member => absurd member List.not_mem_nil

theorem everywhere_append :
    Everywhere P (trees ++ others) ↔ Everywhere P trees ∧ Everywhere P others :=
  List.forall_mem_append

theorem everywhere_mk :
    Everywhere P [.mk content trees] ↔ P content ∧ Everywhere P trees := by
  rw [Everywhere, List.forall_mem_singleton, walk]
  constructor
  · intro all
    refine ⟨all _ List.mem_cons_self, fun tree member node inTree => all node ?_⟩
    exact List.mem_cons_of_mem _ (mem_walkAll.mpr ⟨tree, member, inTree⟩)
  · rintro ⟨own, below⟩ node inTree
    obtain rfl | inTree := List.mem_cons.mp inTree
    · exact own
    · obtain ⟨tree, member, inTree⟩ := mem_walkAll.mp inTree
      exact below tree member node inTree

theorem everywhere_leaf (holds : P content) : Everywhere P [leaf content] :=
  everywhere_mk.mpr ⟨holds, everywhere_nil⟩

theorem Everywhere.imp (all : Everywhere P trees) (weaken : ∀ content, P content → Q content) :
    Everywhere Q trees :=
  fun tree member node inTree => weaken _ (all tree member node inTree)

end Everywhere

/-! ## What texts become -/

theorem everywhere_plainNodes (text : List Char) :
    Everywhere (OccursInText ctx) (plainNodes text) := by
  rw [plainNodes]
  split
  · exact everywhere_nil
  · exact everywhere_leaf (.plain _)

theorem everywhere_pieceNodes :
    ∀ piece : Piece, Everywhere (OccursInText ctx) (pieceNodes ctx piece)
  | .plain text => everywhere_plainNodes text
  | .coordinate found => by
    rw [pieceNodes, everywhere_append]
    refine ⟨everywhere_plainNodes _, ?_⟩
    exact everywhere_append.mpr ⟨everywhere_leaf (.position found), everywhere_plainNodes _⟩

theorem everywhere_transformText (value : String) (pass : Pass) :
    Everywhere (OccursInText ctx) [(transformText ctx value pass).1] := by
  cases @transformText_cases ctx value pass with
  | hidden hides becomes =>
    rw [becomes]
    exact everywhere_leaf .hidden
  | plain shows none becomes =>
    rw [becomes]
    exact everywhere_leaf (.plain _)
  | scanned shows pieces found becomes =>
    rw [becomes]
    refine everywhere_mk.mpr ⟨.plain _, fun node member => ?_⟩
    obtain ⟨piece, -, inPiece⟩ := List.mem_flatMap.mp member
    exact everywhere_pieceNodes piece node inPiece
  | failed fault fails becomes =>
    rw [becomes]
    exact everywhere_leaf (.plain _)

end Node

/-! ## What walks make -/

theorem kept_occurs (rules : List Rule) (ctx : Context) :
    Kept rules ctx fun _ made => Node.Everywhere (Occurs ctx) made.1 where
  nil _ := Node.everywhere_nil
  cons first rest := Node.everywhere_append.mpr ⟨first, rest⟩
  text value pass := (Node.everywhere_transformText value pass).imp fun _ => .text
  shown decided none built inside := by
    obtain ⟨content, shows, rfl⟩ := Rule.shows_of_decideAll decided none built
    exact Node.everywhere_mk.mpr ⟨.shown shows, inside⟩
  numbered decided built := by
    obtain ⟨-, box, made, rfl⟩ := Rule.box_of_decideAll decided built
    exact Node.everywhere_leaf (.box made)
  enclosed tag inside := Node.everywhere_mk.mpr ⟨.element tag, inside⟩
  again _ inside := inside

/-- **Everything in an interactive tree is on the list.** -/
theorem occurs_of_mem_walk {document : Markup} {start : Int} {node : Node}
    (member : node ∈ (transform rules ctx document start).1.walk) : Occurs ctx node.content :=
  (kept_occurs rules ctx).transformNode [] [] document (Pass.start start) _
    List.mem_cons_self node member

end GuideMarkup
