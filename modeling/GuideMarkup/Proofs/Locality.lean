import GuideMarkup.Proofs.Correspondence
import GuideMarkup.Proofs.Skeleton

/-!
# Proofs/Locality — what the links of a context reach

    resource, link to a step, image   ↦  another content, or left alone because the rule fails
    everything around them            ↦  the same node, but for the numbers of boxes

Only three kinds of elements ask for the links (`Rule.decide_relink`), so no other node owes
anything to them, unless it is a box: an element that is left alone shows children that its rule
would have left out, and where one of these is a box all boxes after it have other numbers.  Hence
the two halves of `SameBut`, for contents without their numbers and for whole contents; the second
one needs that no box is shown only because a rule has failed (`Markup.keepsBoxes`).
-/

namespace GuideMarkup

variable {rules : List Rule} {ctx : Context} {links : Links} {site : Site}

/-! ## Contents by place -/

namespace Node

/-- What stands at the end of a path of positions. -/
def contentAt? (tree : Node) (path : List Nat) : Option Content :=
  (tree.at? (path.map Int.ofNat)).map content

theorem contentAt?_nil (content : Content) (trees : List Node) :
    (mk content trees).contentAt? [] = some content := rfl

theorem place?_ofNat (length i : Nat) :
    place? length (Int.ofNat i) = if i < length then some i else none := by
  simp [place?]

theorem contentAt?_cons (content : Content) (trees : List Node) (i : Nat) (path : List Nat) :
    (mk content trees).contentAt? (i :: path) =
      trees[i]?.bind fun child => child.contentAt? path := by
  rw [contentAt?, List.map_cons, at?, children, place?_ofNat]
  split
  · rw [Option.bind_some, Option.map_bind]
    rfl
  · rename_i outside
    rw [List.getElem?_eq_none (Nat.le_of_not_lt outside)]
    rfl

end Node

/-! ## Elements that ask for the links -/

/-- The element is a resource with an identifier, so that it has an address in a database. -/
def Tag.isAddressed (tag : Tag) : Bool :=
  tag.role? == some "custom-tag" &&
    ((ResourceKind.ofMarkup? (tag.attr "type")).bind fun kind =>
      nonEmpty? (tag.externalId? kind)).isSome

/-- The element may be a resource with an address, a link to a step or an image. -/
def Tag.asksLinks (tag : Tag) : Bool :=
  tag.isAddressed || tag.role? == some "guide-step" || tag.name == "img"

/-- **The path stays apart from elements that ask for the links**: none of them is on it. -/
def Markup.IsApart : List Nat → Markup → Prop
  | _, .text _ => True
  | [], .element tag _ => tag.asksLinks = false
  | i :: path, .element tag children => tag.asksLinks = false ∧
      ∀ child, children[i]? = some child → IsApart path child

/-- The context with other links. -/
def Context.relink (ctx : Context) (links : Links) : Context :=
  { ctx with links }

/-- The decision takes the element, and not for a box. -/
def Decision.IsTaken : Decision → Prop
  | .fail _ | .render _ _ => True
  | .decline | .number _ => False

/-- Two decisions are the same, or both take an element that asks for the links. -/
def Decision.SameUnlessAsked (tag : Tag) (decision decision' : Decision) : Prop :=
  decision' = decision ∨ tag.asksLinks = true ∧ decision.IsTaken ∧ decision'.IsTaken

theorem Decision.SameUnlessAsked.decline_iff {tag : Tag} {decision decision' : Decision}
    (same : decision.SameUnlessAsked tag decision') :
    decision = .decline ↔ decision' = .decline := by
  obtain rfl | ⟨-, taken, taken'⟩ := same
  · rfl
  · constructor
    · rintro rfl
      exact taken.elim
    · rintro rfl
      exact taken'.elim

theorem decideGuideStep_relink : (decideGuideStep ctx site).SameUnlessAsked site.tag
    (decideGuideStep (ctx.relink links) site) := by
  rw [decideGuideStep, decideGuideStep]
  have leads : (ctx.relink links).reference? site.tag = ctx.reference? site.tag := rfl
  rw [leads]
  split
  · exact .inl rfl
  rename_i role
  have asks : site.tag.asksLinks = true := by simp_all [Tag.asksLinks]
  split
  · exact .inl rfl
  · exact .inl rfl
  refine .inr ⟨asks, ?_, ?_⟩
  · split <;> trivial
  · split <;> trivial

/-- A resource without an identifier asks for no address. -/
theorem Context.resourceTag_relink {tag : Tag} {kind : ResourceKind}
    (plain : nonEmpty? (tag.externalId? kind) = none) :
    (ctx.relink links).resourceTag tag kind = ctx.resourceTag tag kind := by
  have noUrl : ∀ ctx : Context, ctx.databaseUrl kind (tag.externalId? kind) = .ok none := by
    intro ctx
    rw [databaseUrl, plain]
  rw [resourceTag, resourceTag, noUrl, noUrl]
  rfl

theorem decideCustomTag_relink : (decideCustomTag ctx site).SameUnlessAsked site.tag
    (decideCustomTag (ctx.relink links) site) := by
  rw [decideCustomTag, decideCustomTag]
  split
  · exact .inl rfl
  rename_i role
  split
  · exact .inl rfl
  rename_i kind known
  cases identifier : nonEmpty? (site.tag.externalId? kind) with
  | none =>
    rw [Context.resourceTag_relink identifier]
    exact .inl rfl
  | some id =>
    have asks : site.tag.asksLinks = true := by
      simp_all [Tag.asksLinks, Tag.isAddressed]
    exact .inr ⟨asks, trivial, trivial⟩

theorem decideImage_relink : (decideImage ctx site).SameUnlessAsked site.tag
    (decideImage (ctx.relink links) site) := by
  rw [decideImage, decideImage]
  split
  · exact .inl rfl
  · rename_i name
    have asks : site.tag.asksLinks = true := by simp_all [Tag.asksLinks]
    exact .inr ⟨asks, trivial, trivial⟩

/-- **A rule decides the same with other links**, or takes an element that asks for them. -/
theorem Rule.decide_relink (rule : Rule) : (rule.decide ctx site).SameUnlessAsked site.tag
    (rule.decide (ctx.relink links) site) := by
  cases rule with
  | guideStep => exact decideGuideStep_relink
  | customTag => exact decideCustomTag_relink
  | image => exact decideImage_relink
  | _ => exact .inl rfl

theorem Rule.decideAll_relink : ∀ rules : List Rule,
    (decideAll ctx site rules).SameUnlessAsked site.tag
      (decideAll (ctx.relink links) site rules) :=
  decideAll_related (.inl rfl) Decision.SameUnlessAsked.decline_iff decide_relink

/-! ## Boxes that are left out -/

/-- The children that are shown only if the rule fails that would show the element. -/
def Tag.leftOut (tag : Tag) (children : List Markup) : List Markup :=
  if tag.name == "img" then children else if tag.isAddressed then children.drop 1 else []

namespace Markup

mutual

/-- There is no box in the tree. -/
def isBoxless : Markup → Bool
  | .text _ => true
  | .element tag children => !tag.isCheckbox && areBoxless children

/-- There is no box in any tree of the list. -/
def areBoxless : List Markup → Bool
  | [] => true
  | node :: rest => isBoxless node && areBoxless rest

end

mutual

/-- **The tree keeps its boxes**: none is among children that are shown only if a rule fails. -/
def keepsBoxes : Markup → Bool
  | .text _ => true
  | .element tag children => areBoxless (tag.leftOut children) && keepBoxes children

/-- The trees of the list keep their boxes. -/
def keepBoxes : List Markup → Bool
  | [] => true
  | node :: rest => keepsBoxes node && keepBoxes rest

end

theorem areBoxless_iff {nodes : List Markup} :
    areBoxless nodes = true ↔ ∀ node ∈ nodes, node.isBoxless = true := by
  induction nodes with
  | nil => simp [areBoxless]
  | cons node rest ih => simp [areBoxless, ih]

theorem keepBoxes_iff {nodes : List Markup} :
    keepBoxes nodes = true ↔ ∀ node ∈ nodes, node.keepsBoxes = true := by
  induction nodes with
  | nil => simp [keepBoxes]
  | cons node rest ih => simp [keepBoxes, ih]

end Markup

/-! ## Counts -/

/-- An element that is no box takes no number if its children take none. -/
theorem next_settle_of_inside {look : Scope → Pass → List Node × Pass}
    (noBox : site.tag.isCheckbox = false)
    (inside : ∀ scope pass, (look scope pass).2.next = pass.next) (pass : Pass) :
    ((Rule.decideAll ctx site rules).settle look site.tag pass).2.next = pass.next := by
  cases (@Rule.decideAll_builds ctx site rules).ended look pass with
  | shown scope content shows becomes =>
    rw [becomes]
    exact inside scope pass
  | boxed isBox box made becomes =>
    rw [noBox] at isBox
    exact absurd isBox Bool.false_ne_true
  | left alone failures becomes =>
    rw [becomes]
    exact inside .all _

/-- Trees without boxes take no number. -/
theorem next_transformNode_of_isBoxless (ancestors : List Tag) (following : List Markup)
    {node : Markup} (boxless : node.isBoxless = true) (pass : Pass) :
    (transformNode rules ctx ancestors following node pass).2.next = pass.next := by
  have walk := @transformNode_along₂ rules rules ctx ctx
    (fun places p _ made _ => Markup.areBoxless places = true → made.2.next = p.next)
    (fun _ _ _ => rfl)
    (fun first rest boxless => by
      obtain ⟨here, after⟩ := Bool.and_eq_true_iff.mp boxless
      have middle := first (by rw [Markup.areBoxless, here]; rfl)
      exact (rest after).trans middle)
    (fun value p _ _ => next_transformText value p)
    (fun site looks p _ boxless => by
      obtain ⟨noBox, below⟩ : site.tag.isCheckbox = false ∧
          Markup.areBoxless site.children = true := by
        simpa [Markup.areBoxless, Markup.isBoxless] using boxless
      refine next_settle_of_inside noBox (fun scope pass => ?_) p
      refine looks scope pass pass (Markup.areBoxless_iff.mpr fun node member => ?_)
      exact Markup.areBoxless_iff.mp below node (Markup.mem_of_mem_select member))
    ancestors following node pass pass
  exact walk (by rw [Markup.areBoxless, boxless]; rfl)

theorem next_transformAll_of_areBoxless (ancestors : List Tag) :
    ∀ {nodes : List Markup}, Markup.areBoxless nodes = true → ∀ pass,
      (transformAll rules ctx ancestors nodes pass).2.next = pass.next
  | [], _, _ => rfl
  | node :: rest, boxless, pass => by
    obtain ⟨here, after⟩ := Bool.and_eq_true_iff.mp boxless
    rw [transformAll]
    simp only [next_transformAll_of_areBoxless ancestors after]
    exact next_transformNode_of_isBoxless ancestors rest here pass

/-- Children without boxes can be left out. -/
theorem next_visit_first {ancestors : List Tag} {children : List Markup}
    (boxless : Markup.areBoxless (children.drop 1) = true) (pass : Pass) :
    (visit rules ctx ancestors children .first pass).2.next =
      (visit rules ctx ancestors children .all pass).2.next := by
  cases children with
  | nil => rfl
  | cons head rest =>
    have boxless : Markup.areBoxless rest = true := boxless
    rw [visit, visit, transformFirst, transformAll]
    simp only [next_transformAll_of_areBoxless ancestors boxless]

/-- **What is left out takes no number** where no box is left out. -/
theorem next_visit_of_shows {ancestors : List Tag} {scope : Scope} {content : Content}
    (asks : site.tag.asksLinks = true)
    (boxless : Markup.areBoxless (site.tag.leftOut site.children) = true)
    (shows : Shows ctx site scope content) (pass : Pass) :
    (visit rules ctx ancestors site.children scope pass).2.next =
      (visit rules ctx ancestors site.children .all pass).2.next := by
  cases shows with
  | lineBreak blank last | dropped blank more =>
    have empty : site.children = [] := by
      simp_all [Markup.isBlankParagraph]
    rw [empty]
    rfl
  | resource role kind known tag made =>
    have addressed : site.tag.isAddressed = true ∨ site.tag.name = "img" := by
      simpa [Tag.asksLinks, role] using asks
    refine next_visit_first ?_ pass
    rw [Tag.leftOut] at boxless
    split at boxless
    · refine Markup.areBoxless_iff.mpr fun node member => ?_
      exact Markup.areBoxless_iff.mp boxless node (List.mem_of_mem_drop member)
    · simp_all
  | image name ref made =>
    rw [Tag.leftOut, name] at boxless
    exact (next_transformAll_of_areBoxless ancestors boxless pass).symm
  | _ => rfl

/-- The count after an element that is taken is that after all its children, visited once more if
the rule failed. -/
theorem exists_next_settle_of_isTaken (asks : site.tag.asksLinks = true)
    (boxless : Markup.areBoxless (site.tag.leftOut site.children) = true)
    (taken : (Rule.decideAll ctx site rules).IsTaken) (pass : Pass) :
    ∃ failures : Nat, ((Rule.decideAll ctx site rules).settle
        (visit rules ctx (site.tag :: site.ancestors) site.children) site.tag pass).2.next =
      (visit rules ctx (site.tag :: site.ancestors) site.children .all
        ⟨pass.next, failures⟩).2.next := by
  have nothing : visit rules ctx (site.tag :: site.ancestors) site.children .nothing pass =
      ([], pass) := rfl
  cases Decision.settle_cases nothing with
  | shown scope build node decided built becomes =>
    have none : scope = .nothing →
        (visit rules ctx (site.tag :: site.ancestors) site.children scope pass).1 = [] := by
      rintro rfl
      rfl
    obtain ⟨content, shows, -⟩ := Rule.shows_of_decideAll decided none built
    exact ⟨pass.fallbacks, by rw [becomes, next_visit_of_shows asks boxless shows]⟩
  | numbered build node decided built becomes =>
    rw [decided] at taken
    exact taken.elim
  | declined decided becomes =>
    rw [decided] at taken
    exact taken.elim
  | failed scope becomes => exact ⟨_, congrArg (fun result => result.2.next) becomes⟩

/-! ## One decision in two walks -/

/-- A content without the number of a box, and without what depends on the number. -/
def Content.unnumbered : Content → Content
  | .checkbox box => .checkbox { box with index := 0, checked := false }
  | content => content

/-- Two boxes of one context are both missing, or differ in what depends on their numbers. -/
theorem Context.matched_checkbox (index index' : Int) :
    Matched (fun box box' => (Content.checkbox box).unnumbered = (Content.checkbox box').unnumbered)
      (ctx.checkbox index) (ctx.checkbox index') := by
  rw [checkbox, checkbox]
  split
  · rw [isChecked, isChecked]
    cases need .checked ctx.checked with
    | error fault => exact .error fault fault
    | ok checked => exact .ok rfl
  · exact .ok rfl

/-- The ways in which one decision can be settled in two walks. -/
inductive SettledAlike (ctx : Context) (look look' : Scope → Pass → List Node × Pass)
    (p q : Pass) (result result' : Node × Pass) : Prop
  /-- A node around children, some failures before their visit apart. -/
  | around (scope : Scope) (content : Content) (failures failures' : Nat)
      (becomes : result = (.mk content (scope.over (look scope ⟨p.next, failures⟩).1),
        (look scope ⟨p.next, failures⟩).2))
      (becomes' : result' = (.mk content (scope.over (look' scope ⟨q.next, failures'⟩).1),
        (look' scope ⟨q.next, failures'⟩).2))
  | boxed (box box' : Checkbox) (made : ctx.checkbox p.next = .ok box)
      (made' : ctx.checkbox q.next = .ok box')
      (alike : (Content.checkbox box).unnumbered = (Content.checkbox box').unnumbered)
      (becomes : result = (Node.leaf (.checkbox box), ⟨p.next + 1, p.fallbacks⟩))
      (becomes' : result' = (Node.leaf (.checkbox box'), ⟨q.next + 1, q.fallbacks⟩))

/-- **One decision is settled alike in two walks**, whatever the children have become and whatever
number is next. -/
theorem Decision.Builds.settledAlike {decision : Decision} (builds : decision.Builds ctx site)
    (look look' : Scope → Pass → List Node × Pass) (tag : Tag) (p q : Pass) :
    SettledAlike ctx look look' p q (decision.settle look tag p)
      (decision.settle look' tag q) := by
  cases decision with
  | decline => exact .around .all _ p.fallbacks q.fallbacks rfl rfl
  | fail fault => exact .around .all _ _ _ (settle_fail fault) (settle_fail fault)
  | render scope build =>
    obtain ⟨made, built, -⟩ := builds
    cases made with
    | error fault =>
      exact .around .all _ _ _ (settle_render_error (built _)) (settle_render_error (built _))
    | ok content =>
      exact .around scope content p.fallbacks q.fallbacks (settle_render_ok (built _))
        (settle_render_ok (built _))
  | number build =>
    obtain ⟨-, built⟩ := builds
    have result := built p.next
    have result' := built q.next
    have matched := @Context.matched_checkbox ctx p.next q.next
    generalize made : ctx.checkbox p.next = box, made' : ctx.checkbox q.next = box'
      at matched result result'
    cases matched with
    | error fault fault' =>
      exact .around .all _ _ _ (settle_number_error result) (settle_number_error result')
    | ok alike =>
      exact .boxed _ _ made made' alike (settle_number_ok result) (settle_number_ok result')

/-! ## Nodes of one place -/

/-- Two nodes for one place read alike along all paths that stay apart. -/
def SameApart (read : Content → Content) (place : Markup) (tree tree' : Node) : Prop :=
  ∀ path, place.IsApart path → (tree.contentAt? path).map read = (tree'.contentAt? path).map read

/-- The nodes for some places read alike, one by one. -/
inductive AllSameApart (read : Content → Content) : List Markup → List Node → List Node → Prop
  | nil : AllSameApart read [] [] []
  | cons {place : Markup} {places : List Markup} {tree tree' : Node} {trees trees' : List Node}
      (first : SameApart read place tree tree') (rest : AllSameApart read places trees trees') :
      AllSameApart read (place :: places) (tree :: trees) (tree' :: trees')

variable {read : Content → Content}

theorem allSameApart_singleton {place : Markup} {tree tree' : Node} :
    AllSameApart read [place] [tree] [tree'] ↔ SameApart read place tree tree' := by
  refine ⟨fun all => ?_, fun first => .cons first .nil⟩
  cases all with
  | cons first _ => exact first

theorem AllSameApart.bind_contentAt? {places : List Markup} {trees trees' : List Node}
    (below : AllSameApart read places trees trees') {path : List Nat} {i : Nat}
    (apart : ∀ place, places[i]? = some place → place.IsApart path) :
    (trees[i]?.bind fun child => child.contentAt? path).map read =
      (trees'[i]?.bind fun child => child.contentAt? path).map read := by
  induction below generalizing i with
  | nil => rfl
  | cons first _ ih =>
    cases i with
    | zero => exact first path (apart _ rfl)
    | succ i => exact ih apart

theorem getElem?_of_select {scope : Scope} {nodes : List Markup} {i : Nat} {node : Markup}
    (found : (scope.select nodes)[i]? = some node) : nodes[i]? = some node := by
  cases scope with
  | nothing => exact absurd found nofun
  | first =>
    rw [Scope.select, List.getElem?_take] at found
    split at found
    · exact found
    · exact absurd found nofun
  | all => exact found

/-- Nodes over the children in scope read alike if their contents do, and the children. -/
theorem sameApart_mk {tag : Tag} {children : List Markup} {content content' : Content}
    (own : read content = read content') (scope : Scope) {trees trees' : List Node}
    (below : AllSameApart read (scope.select children) trees trees') :
    SameApart read (.element tag children) (.mk content (scope.over trees))
      (.mk content' (scope.over trees')) := by
  have shown :
      AllSameApart read (scope.select children) (scope.over trees) (scope.over trees') := by
    cases scope with
    | nothing => exact .nil
    | first | all => exact below
  intro path apart
  cases path with
  | nil =>
    rw [Node.contentAt?_nil, Node.contentAt?_nil]
    exact congrArg some own
  | cons i path =>
    rw [Node.contentAt?_cons, Node.contentAt?_cons]
    obtain ⟨-, apart⟩ := apart
    exact shown.bind_contentAt? fun child found => apart child (getElem?_of_select found)

/-- No path that stays apart leads to an element that asks for the links, nor through it. -/
theorem sameApart_of_asksLinks {tag : Tag} {children : List Markup} (asks : tag.asksLinks = true)
    (tree tree' : Node) : SameApart read (.element tag children) tree tree' := by
  intro path apart
  have asksNot : tag.asksLinks = false := by
    cases path with
    | nil => exact apart
    | cons i path => exact apart.1
  rw [asks] at asksNot
  exact absurd asksNot.symm Bool.false_ne_true

/-! ## Two walks with other links -/

/-- Two stretches over the same places have nodes that read alike but for the numbers; and if they
start at one number, and the places keep their boxes, these are the same, and so is the count after
them. -/
structure SameBut (places : List Markup) (p q : Pass) (made made' : List Node × Pass) : Prop where
  shape : AllSameApart Content.unnumbered places made.1 made'.1
  whole : Markup.keepBoxes places = true → p.next = q.next →
    AllSameApart id places made.1 made'.1 ∧ made.2.next = made'.2.next

section Walks

variable {p q : Pass}

theorem sameBut_transformText (value : String) (p q : Pass) : SameBut [.text value] p q
    (alone (transformText ctx value p)) (alone (transformText (ctx.relink links) value q)) := by
  rw [← @transformText_congr ctx (ctx.relink links) rfl rfl rfl rfl]
  have same := @fst_transformText ctx value p q
  refine ⟨.cons (fun path _ => ?_) .nil, fun _ start => ⟨.cons (fun path _ => ?_) .nil, ?_⟩⟩
  · rw [same]
  · rw [same]
  · rw [alone, alone, next_transformText, next_transformText, start]

theorem SameBut.cons {place : Markup} {places : List Markup} {p' q' p'' q'' : Pass} {n m : Node}
    {ns ms : List Node} (first : SameBut [place] p q ([n], p') ([m], q'))
    (rest : SameBut places p' q' (ns, p'') (ms, q'')) :
    SameBut (place :: places) p q (n :: ns, p'') (m :: ms, q'') := by
  refine ⟨.cons (allSameApart_singleton.mp first.shape) rest.shape, fun keeps start => ?_⟩
  obtain ⟨keepsHere, keepsAfter⟩ := Bool.and_eq_true_iff.mp keeps
  obtain ⟨here, middle⟩ := first.whole (by rw [Markup.keepBoxes, keepsHere]; rfl) start
  obtain ⟨after, ends⟩ := rest.whole keepsAfter middle
  exact ⟨.cons (allSameApart_singleton.mp here) after, ends⟩

variable {look look' : Scope → Pass → List Node × Pass}
  (looks : ∀ scope p q, SameBut (scope.select site.children) p q (look scope p) (look' scope q))

include looks

/-- One decision keeps two walks the same but for the numbers. -/
theorem sameBut_settle {decision : Decision} (builds : decision.Builds ctx site) (p q : Pass) :
    SameBut [.element site.tag site.children] p q (alone (decision.settle look site.tag p))
      (alone (decision.settle look' site.tag q)) := by
  have below : Markup.keepBoxes [.element site.tag site.children] = true →
      ∀ scope : Scope, Markup.keepBoxes (scope.select site.children) = true := by
    intro keeps scope
    have keeps : Markup.keepBoxes site.children = true := by
      simp_all [Markup.keepBoxes, Markup.keepsBoxes]
    refine Markup.keepBoxes_iff.mpr fun node member => ?_
    exact Markup.keepBoxes_iff.mp keeps node (Markup.mem_of_mem_select member)
  cases builds.settledAlike look look' site.tag p q with
  | around scope content failures failures' becomes becomes' =>
    rw [becomes, becomes']
    have inside := looks scope ⟨p.next, failures⟩ ⟨q.next, failures'⟩
    refine ⟨.cons (sameApart_mk rfl scope inside.shape) .nil, fun keeps start => ?_⟩
    obtain ⟨whole, ends⟩ := inside.whole (below keeps scope) start
    exact ⟨.cons (sameApart_mk rfl scope whole) .nil, ends⟩
  | boxed box box' made made' alike becomes becomes' =>
    rw [becomes, becomes']
    refine ⟨.cons (sameApart_mk alike .nothing .nil) .nil, fun _ start => ?_⟩
    rw [start, made'] at made
    obtain rfl := Except.ok.inj made
    exact ⟨.cons (fun _ _ => rfl) .nil, congrArg (· + 1) start⟩

end Walks

/-- **Elements keep two walks the same but for the numbers**, if the contexts differ in the
links. -/
theorem sameBut_element (looks : ∀ scope p q, SameBut (scope.select site.children) p q
      (visit rules ctx (site.tag :: site.ancestors) site.children scope p)
      (visit rules (ctx.relink links) (site.tag :: site.ancestors) site.children scope q))
    (p q : Pass) : SameBut [.element site.tag site.children] p q
      (alone ((Rule.decideAll ctx site rules).settle
        (visit rules ctx (site.tag :: site.ancestors) site.children) site.tag p))
      (alone ((Rule.decideAll (ctx.relink links) site rules).settle
        (visit rules (ctx.relink links) (site.tag :: site.ancestors) site.children)
        site.tag q)) := by
  obtain same | ⟨asks, taken, taken'⟩ := @Rule.decideAll_relink ctx links site rules
  · rw [same]
    exact sameBut_settle looks (Rule.decideAll_builds rules) p q
  · refine ⟨.cons (sameApart_of_asksLinks asks _ _) .nil, fun keeps start => ?_⟩
    refine ⟨.cons (sameApart_of_asksLinks asks _ _) .nil, ?_⟩
    obtain ⟨boxless, below⟩ : Markup.areBoxless (site.tag.leftOut site.children) = true ∧
        Markup.keepBoxes site.children = true := by
      simpa [Markup.keepBoxes, Markup.keepsBoxes] using keeps
    -- Whether a rule fails or not, the count is that after all children.
    obtain ⟨failures, ends⟩ := exists_next_settle_of_isTaken asks boxless taken p
    obtain ⟨failures', ends'⟩ := exists_next_settle_of_isTaken asks boxless taken' q
    have inside := (looks .all ⟨p.next, failures⟩ ⟨q.next, failures'⟩).whole below start
    exact ends.trans (inside.2.trans ends'.symm)

/-- **What has nothing to do with the links stays as it is**, whatever rules fail with the one links
or the others: along every path that stays apart from elements that ask for links, the contents are
the same but for the numbers of boxes; and if the document keeps its boxes, they are the same, and
so is the number at the end. -/
theorem contentAt?_transform_relink (rules : List Rule) (ctx : Context) (links : Links)
    {document : Markup} (start : Int) {path : List Nat} (apart : document.IsApart path) :
    ((transform rules ctx document start).1.contentAt? path).map Content.unnumbered =
        ((transform rules (ctx.relink links) document start).1.contentAt? path).map
          Content.unnumbered ∧
      (document.keepsBoxes = true →
        (transform rules ctx document start).1.contentAt? path =
            (transform rules (ctx.relink links) document start).1.contentAt? path ∧
          (transform rules ctx document start).2.next =
            (transform rules (ctx.relink links) document start).2.next) := by
  have same : SameBut [document] (Pass.start start) (Pass.start start)
      (alone (transform rules ctx document start))
      (alone (transform rules (ctx.relink links) document start)) :=
    transformNode_along₂ (fun _ _ => ⟨.nil, fun _ start => ⟨.nil, start⟩⟩) SameBut.cons
      sameBut_transformText (fun _ looks => sameBut_element looks) [] [] document _ _
  refine ⟨allSameApart_singleton.mp same.shape path apart, fun keeps => ?_⟩
  obtain ⟨whole, ends⟩ := same.whole (by rw [Markup.keepBoxes, keeps]; rfl) rfl
  have contents := allSameApart_singleton.mp whole path apart
  rw [Option.map_id_fun, id, id] at contents
  exact ⟨contents, ends⟩

/-! ### An item without an address, with a box behind it -/

/-- An item whose only part is a picture, and a box behind it. -/
def iconItem : Markup :=
  .element ⟨"div", []⟩
    [.element ⟨"span", [("data-type", "custom-tag"), ("type", "wakfu-item"), ("wakfuid", "7")]⟩
      [.element ⟨"br", []⟩ []], .element ⟨"input", [("type", "checkbox")]⟩ []]

/-- The item fails with the one links and not with the others, and the box has one number. -/
theorem contentAt?_transform_relink_iconItem :
    iconItem.IsApart [1] ∧ iconItem.keepsBoxes = true ∧
      (transform Rule.standard .preview iconItem 0).2.fallbacks = 0 ∧
      (transform Rule.standard (Context.preview.relink Context.unaddressed.links) iconItem
        0).2.fallbacks = 1 ∧
      (transform Rule.standard (Context.preview.relink Context.unaddressed.links) iconItem
        0).1.contentAt? [1] = some (.checkbox ⟨0, false, false, none, none⟩) := by
  have apart : iconItem.IsApart [1] := by
    refine ⟨rfl, fun child found => ?_⟩
    obtain rfl := Option.some.inj found
    rfl
  have keeps : iconItem.keepsBoxes = true := by rfl
  have same := ((contentAt?_transform_relink Rule.standard .preview Context.unaddressed.links 0
    apart).2 keeps).1
  exact ⟨apart, keeps, rfl, rfl, same.symm.trans rfl⟩

/-- A box among the parts of an item that fails moves the number of the box behind the item. -/
theorem boxedItem_renumbered :
    boxedItem.IsApart [1] ∧
      (transform Rule.standard .preview boxedItem 0).1.contentAt? [1] =
        some (.checkbox ⟨0, false, false, none, none⟩) ∧
      (transform Rule.standard (Context.preview.relink Context.unaddressed.links) boxedItem
        0).1.contentAt? [1] = some (.checkbox ⟨1, false, false, none, none⟩) := by
  have apart : boxedItem.IsApart [1] := by
    refine ⟨rfl, fun child found => ?_⟩
    obtain rfl := Option.some.inj found
    rfl
  exact ⟨apart, rfl, rfl⟩

end GuideMarkup
