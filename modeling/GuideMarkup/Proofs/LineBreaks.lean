import GuideMarkup.Proofs.Correspondence
import GuideMarkup.Proofs.Locality

/-!
# Proofs/LineBreaks — a run of blank paragraphs breaks the line once

    <p></p> … <p></p> <p></p>   ↦   nothing · … · nothing · line break

What becomes of a node depends on its siblings by the next one alone: a blank paragraph that another
one follows is dropped, and the last one of a run breaks the line (`content_eq_dropped_iff`,
`content_eq_lineBreak_iff`).  Images stand where their originals stood (`IsImage.at?`), so this
holds of all siblings that are shown in full, wherever in the document they are.
-/

namespace GuideMarkup

variable {rules : List Rule} {ctx : Context}

/-! ## One paragraph -/

/-- A blank paragraph stands at the position. -/
def Markup.isBlankAt (siblings : List Markup) (i : Nat) : Bool :=
  siblings[i]?.any isBlankParagraph

theorem Markup.blankRun_eq_zero_iff {siblings : List Markup} :
    blankRun siblings = 0 ↔ isBlankAt siblings 0 = false := by
  rw [blankRun, isBlankAt, List.length_eq_zero_iff]
  cases siblings with
  | nil => simp
  | cons node rest => cases blank : node.isBlankParagraph <;> simp [blank]

/-- What shows nothing or breaks the line was a blank paragraph, and its next sibling decides
which. -/
theorem Shows.isBlank {site : Site} {scope : Scope} {content : Content}
    (shows : Shows ctx site scope content) :
    (content = .dropped → site.place.node.isBlankParagraph = true ∧
        Markup.isBlankAt site.following 0 = true) ∧
      (content = .lineBreak → site.place.node.isBlankParagraph = true ∧
        Markup.isBlankAt site.following 0 = false) := by
  cases shows with
  | lineBreak blank last =>
    exact ⟨nofun, fun _ => ⟨blank, Markup.blankRun_eq_zero_iff.mp last⟩⟩
  | dropped blank more =>
    exact ⟨fun _ => ⟨blank, by simpa using mt Markup.blankRun_eq_zero_iff.mpr more⟩, nofun⟩
  | link role target leads marked icon =>
    rw [Context.linkContent]
    split <;> exact ⟨nofun, nofun⟩
  | _ => exact ⟨nofun, nofun⟩

theorem Becomes.isBlank {place : Place} {tree : Node} (becomes : Becomes rules ctx place tree) :
    (tree.content = .dropped → place.node.isBlankParagraph = true ∧
        Markup.isBlankAt place.following 0 = true) ∧
      (tree.content = .lineBreak → place.node.isBlankParagraph = true ∧
        Markup.isBlankAt place.following 0 = false) := by
  cases becomes with
  | shown site shows below => exact shows.isBlank
  | _ => exact ⟨nofun, nofun⟩

section Standard

variable {ancestors : List Tag} {following : List Markup} {node : Markup} {pass : Pass}

/-- **A blank paragraph is the business of the first rule**, whatever others would make of it. -/
theorem transformNode_of_isBlank (blank : node.isBlankParagraph = true) :
    (transformNode Rule.standard ctx ancestors following node pass).1 =
      Node.leaf (if Markup.isBlankAt following 0 then .dropped else .lineBreak) := by
  cases node with
  | text value => exact absurd blank nofun
  | element tag children =>
    rw [transformNode_element, Rule.standard, Rule.decideAll, Rule.decide, decideBlankParagraph,
      if_pos blank]
    simp only [Markup.blankRun_eq_zero_iff]
    cases Markup.isBlankAt following 0 <;> rfl

theorem content_eq_dropped_iff :
    (transformNode Rule.standard ctx ancestors following node pass).1.content = .dropped ↔
      node.isBlankParagraph = true ∧ Markup.isBlankAt following 0 = true := by
  refine ⟨(becomes_transformNode ancestors following node pass).isBlank.1, fun ⟨blank, next⟩ => ?_⟩
  rw [transformNode_of_isBlank blank, if_pos next]
  rfl

theorem content_eq_lineBreak_iff :
    (transformNode Rule.standard ctx ancestors following node pass).1.content = .lineBreak ↔
      node.isBlankParagraph = true ∧ Markup.isBlankAt following 0 = false := by
  refine ⟨(becomes_transformNode ancestors following node pass).isBlank.2, fun ⟨blank, last⟩ => ?_⟩
  rw [transformNode_of_isBlank blank, last]
  rfl

end Standard

/-! ## Siblings -/

/-- **The images of siblings, with the runs of blank paragraphs collapsed.** -/
structure Collapsed (siblings : List Markup) (images : List Node) : Prop where
  length_eq : images.length = siblings.length
  dropped_iff : ∀ i, images[i]?.map Node.content = some .dropped ↔
    Markup.isBlankAt siblings i = true ∧ Markup.isBlankAt siblings (i + 1) = true
  lineBreak_iff : ∀ i, images[i]?.map Node.content = some .lineBreak ↔
    Markup.isBlankAt siblings i = true ∧ Markup.isBlankAt siblings (i + 1) = false

theorem collapsed_nil : Collapsed [] [] :=
  ⟨rfl, by simp [Markup.isBlankAt], by simp [Markup.isBlankAt]⟩

theorem collapsed_transformAll (ancestors : List Tag) :
    ∀ (siblings : List Markup) (pass : Pass),
      Collapsed siblings (transformAll Rule.standard ctx ancestors siblings pass).1
  | [], _ => collapsed_nil
  | head :: rest, pass => by
    have ih := collapsed_transformAll ancestors rest
      (transformNode Rule.standard ctx ancestors rest head pass).2
    rw [transformAll]
    refine ⟨congrArg (· + 1) ih.length_eq, ?_, ?_⟩
    · rintro (_ | i)
      · simpa [Markup.isBlankAt] using content_eq_dropped_iff
      · simpa [Markup.isBlankAt] using ih.dropped_iff i
    · rintro (_ | i)
      · simpa [Markup.isBlankAt] using content_eq_lineBreak_iff
      · simpa [Markup.isBlankAt] using ih.lineBreak_iff i

/-- Within a run all siblings are blank, and the one behind it is not. -/
theorem isBlankAt_run {before run after : List Markup}
    (blank : ∀ node ∈ run, node.isBlankParagraph = true)
    (ends : Markup.isBlankAt after 0 = false) {j : Nat} (atMost : j ≤ run.length) :
    Markup.isBlankAt (before ++ run ++ after) (before.length + j) = decide (j < run.length) := by
  rw [Markup.isBlankAt, List.append_assoc, List.getElem?_append_right (by omega),
    Nat.add_sub_cancel_left]
  rcases Nat.lt_or_eq_of_le atMost with inRun | rfl
  · rw [List.getElem?_append_left inRun, List.getElem?_eq_getElem inRun, decide_eq_true inRun]
    exact blank _ (List.getElem_mem inRun)
  · rw [List.getElem?_append_right (Nat.le_refl _), Nat.sub_self, decide_eq_false (by omega)]
    exact ends

namespace Collapsed

variable {siblings : List Markup} {images : List Node}

/-- **A run breaks the line once**, at its end. -/
theorem contents_run {before run after : List Markup}
    (collapsed : Collapsed (before ++ run ++ after) images) (nonempty : run ≠ [])
    (blank : ∀ node ∈ run, node.isBlankParagraph = true)
    (ends : Markup.isBlankAt after 0 = false) :
    ((images.drop before.length).take run.length).map Node.content =
      List.replicate (run.length - 1) .dropped ++ [.lineBreak] := by
  have positive := List.length_pos_iff.mpr nonempty
  refine List.ext_getElem? fun j => ?_
  rw [List.getElem?_map, List.getElem?_take]
  split
  · rename_i inRun
    have here := @isBlankAt_run before run after blank ends j (by omega)
    have next := @isBlankAt_run before run after blank ends (j + 1) inRun
    rw [decide_eq_true inRun] at here
    rw [List.getElem?_drop]
    by_cases last : j + 1 = run.length
    · rw [List.getElem?_append_right (by simp; omega), List.length_replicate,
        show j - (run.length - 1) = 0 by omega]
      rw [decide_eq_false (by omega)] at next
      exact (collapsed.lineBreak_iff _).mpr ⟨here, next⟩
    · rw [List.getElem?_append_left (by simp; omega), List.getElem?_replicate,
        if_pos (by omega)]
      rw [decide_eq_true (by omega)] at next
      exact (collapsed.dropped_iff _).mpr ⟨here, next⟩
  · rw [List.getElem?_eq_none (by simp; omega)]
    rfl

end Collapsed

/-! ## Places -/

namespace Markup

/-- The markup at the end of a path of positions. -/
def at? : Markup → List Nat → Option Markup
  | node, [] => some node
  | .text _, _ :: _ => none
  | .element _ children, i :: path => children[i]?.bind fun child => child.at? path

end Markup

/-- The tree is what a walk makes of the node at some place in a document. -/
def IsImage (rules : List Rule) (ctx : Context) (node : Markup) (tree : Node) : Prop :=
  ∃ ancestors following pass, (transformNode rules ctx ancestors following node pass).1 = tree

theorem isImage_transformAll {ancestors : List Tag} :
    ∀ {nodes : List Markup} {pass : Pass} {i : Nat} {tree : Node},
      (transformAll rules ctx ancestors nodes pass).1[i]? = some tree →
        ∃ node, nodes[i]? = some node ∧ IsImage rules ctx node tree
  | [], _, _, _, found => absurd found (by simp [transformAll])
  | head :: rest, pass, 0, tree, found => by
    obtain rfl := Option.some.inj found
    exact ⟨head, rfl, ancestors, rest, pass, rfl⟩
  | head :: rest, pass, i + 1, tree, found => by
    simp only [transformAll, List.getElem?_cons_succ] at found ⊢
    exact isImage_transformAll found

theorem isImage_transformFirst {ancestors : List Tag} {nodes : List Markup} {pass : Pass} {i : Nat}
    {tree : Node} (found : (transformFirst rules ctx ancestors nodes pass).1[i]? = some tree) :
    ∃ node, nodes[i]? = some node ∧ IsImage rules ctx node tree := by
  rcases nodes with _ | ⟨head, rest⟩
  · exact absurd found (by simp [transformFirst])
  · rcases i with _ | i
    · obtain rfl := Option.some.inj found
      exact ⟨head, rfl, ancestors, rest, pass, rfl⟩
    · exact absurd found (by simp [transformFirst])

/-- **The children of an image are images of the children** at the same positions. -/
theorem IsImage.child {tag : Tag} {children : List Markup} {tree child : Node} {i : Nat}
    (image : IsImage rules ctx (.element tag children) tree)
    (found : tree.children[i]? = some child) :
    ∃ node, children[i]? = some node ∧ IsImage rules ctx node child := by
  obtain ⟨ancestors, following, pass, rfl⟩ := image
  rw [transformNode_element] at found
  cases (@Rule.decideAll_builds ctx ⟨tag, children, ancestors, following⟩ rules).ended
      (visit rules ctx (tag :: ancestors) children) pass with
  | shown scope content shows becomes =>
    rw [becomes] at found
    cases scope with
    | nothing => exact absurd found (by simp [Node.children, Scope.over])
    | first => exact isImage_transformFirst found
    | all => exact isImage_transformAll found
  | boxed isBox box made becomes =>
    rw [becomes] at found
    exact absurd found (by simp [Node.children, Node.leaf])
  | left alone failures becomes =>
    rw [becomes] at found
    exact isImage_transformAll found

/-- **Images stand where their originals stand.** -/
theorem IsImage.at? {path : List Nat} {node original : Markup} {tree image : Node}
    (isImage : IsImage rules ctx node tree) (inDocument : node.at? path = some original)
    (inTree : tree.at? (path.map Int.ofNat) = some image) : IsImage rules ctx original image := by
  induction path generalizing node tree with
  | nil =>
    obtain rfl := Option.some.inj inDocument
    obtain rfl := Option.some.inj inTree
    exact isImage
  | cons i path ih =>
    rcases node with value | ⟨tag, children⟩
    · cases inDocument
    obtain ⟨child, isChild, inDocument⟩ := Option.bind_eq_some_iff.mp inDocument
    rw [List.map_cons, Node.at?] at inTree
    obtain ⟨k, place, inside⟩ := Option.bind_eq_some_iff.mp inTree
    obtain ⟨childTree, isChildTree, reached⟩ := Option.bind_eq_some_iff.mp inside
    have hk : k = i := by
      rw [Node.place?_ofNat] at place
      split at place
      · exact (Option.some.inj place).symm
      · cases place
    obtain ⟨child', isChild', isImage'⟩ := isImage.child (hk ▸ isChildTree)
    obtain rfl := Option.some.inj (isChild.symm.trans isChild')
    exact ih isImage' inDocument reached

/-- The content shows all that it holds: it is no resource, no image and no box. -/
def Content.showsAll : Content → Bool
  | .resource _ | .image _ | .checkbox _ => false
  | _ => true

theorem IsImage.collapsed {tag : Tag} {children : List Markup} {tree : Node}
    (image : IsImage Rule.standard ctx (.element tag children) tree)
    (full : tree.content.showsAll = true) : Collapsed children tree.children := by
  obtain ⟨ancestors, following, pass, rfl⟩ := image
  rw [transformNode_element] at full ⊢
  cases (@Rule.decideAll_builds ctx ⟨tag, children, ancestors, following⟩ Rule.standard).ended
      (visit Rule.standard ctx (tag :: ancestors) children) pass with
  | shown scope content shows becomes =>
    rw [becomes] at full ⊢
    cases shows with
    | lineBreak blank last | dropped blank more =>
      obtain rfl : children = [] := by simp_all [Markup.isBlankParagraph]
      exact collapsed_nil
    | resource role kind known tag made | image name ref made => cases full
    | _ => exact collapsed_transformAll _ _ _
  | boxed isBox box made becomes =>
    rw [becomes] at full
    cases full
  | left alone failures becomes =>
    rw [becomes]
    exact collapsed_transformAll _ _ _

/-! ## The whole tree -/

theorem Node.self_mem_walk (tree : Node) : tree ∈ tree.walk :=
  @mem_walk_of_at? [] tree tree rfl

/-- The children of a node of a tree are nodes of the tree. -/
theorem Node.mem_walk_of_mem_children : ∀ {tree node child : Node},
    node ∈ tree.walk → child ∈ node.children → child ∈ tree.walk
  | .mk content trees, node, child, inTree, isChild => by
    rw [walk] at inTree ⊢
    refine List.mem_cons_of_mem _ (mem_walkAll.mpr ?_)
    rcases List.mem_cons.mp inTree with rfl | inTrees
    · exact ⟨child, isChild, child.self_mem_walk⟩
    · obtain ⟨tree, member, inTree⟩ := mem_walkAll.mp inTrees
      exact ⟨tree, member, mem_walk_of_mem_children inTree isChild⟩
  termination_by tree => sizeOf tree
  decreasing_by
    have := List.sizeOf_lt_of_mem member
    simp only [Node.mk.sizeOf_spec]
    omega

/-- No two line breaks stand side by side. -/
def SeparateBreaks (trees : List Node) : Prop :=
  ∀ i, ¬(trees[i]?.map Node.content = some .lineBreak ∧
    trees[i + 1]?.map Node.content = some .lineBreak)

theorem Collapsed.separateBreaks {siblings : List Markup} {images : List Node}
    (collapsed : Collapsed siblings images) : SeparateBreaks images := by
  intro i
  rw [collapsed.lineBreak_iff, collapsed.lineBreak_iff]
  rintro ⟨⟨-, last⟩, blank, -⟩
  exact absurd (last.symm.trans blank) nofun

theorem separateBreaks_of_length_le {trees : List Node} (few : trees.length ≤ 1) :
    SeparateBreaks trees := by
  rintro i ⟨-, second⟩
  rw [List.getElem?_eq_none (by omega)] at second
  exact absurd second nofun

theorem separateBreaks_of_forall_ne {trees : List Node}
    (none : ∀ tree ∈ trees, tree.content ≠ .lineBreak) : SeparateBreaks trees := by
  rintro i ⟨first, -⟩
  obtain ⟨tree, found, isBreak⟩ := Option.map_eq_some_iff.mp first
  exact none tree (List.mem_of_getElem? found) isBreak

theorem separateBreaks_transformText {value : String} {pass : Pass} {node : Node}
    (member : node ∈ (transformText ctx value pass).1.walk) : SeparateBreaks node.children := by
  refine separateBreaks_of_forall_ne fun child isChild isBreak => ?_
  have occurs := Node.everywhere_transformText value pass _ List.mem_cons_self child
    (Node.mem_walk_of_mem_children member isChild)
  rw [isBreak] at occurs
  exact absurd occurs nofun

theorem separateBreaks_visit (ancestors : List Tag) (children : List Markup) (scope : Scope)
    (pass : Pass) : SeparateBreaks (visit Rule.standard ctx ancestors children scope pass).1 := by
  cases scope with
  | nothing => exact separateBreaks_of_length_le (Nat.zero_le 1)
  | first =>
    refine separateBreaks_of_length_le ?_
    cases children <;> simp [visit, transformFirst]
  | all => exact (collapsed_transformAll ancestors children pass).separateBreaks

/-- Line breaks stand apart everywhere in some trees. -/
def BreaksApart (trees : List Node) : Prop :=
  ∀ node ∈ Node.walkAll trees, SeparateBreaks node.children

theorem breaksApart_singleton {tree : Node} :
    BreaksApart [tree] ↔ ∀ node ∈ tree.walk, SeparateBreaks node.children := by
  rw [BreaksApart, Node.walkAll, Node.walkAll, List.append_nil]

theorem BreaksApart.cons {tree : Node} {rest : List Node} (first : BreaksApart [tree])
    (others : BreaksApart rest) : BreaksApart (tree :: rest) := by
  intro node member
  rw [Node.walkAll, List.mem_append] at member
  exact member.elim (breaksApart_singleton.mp first node) (others node)

theorem breaksApart_mk {content : Content} {trees : List Node} (own : SeparateBreaks trees)
    (below : BreaksApart trees) : BreaksApart [.mk content trees] := by
  refine breaksApart_singleton.mpr fun node member => ?_
  rw [Node.walk] at member
  rcases List.mem_cons.mp member with rfl | member
  · exact own
  · exact below node member

/-- Elements keep line breaks apart. -/
theorem breaksApart_settle {site : Site}
    (looks : ∀ scope pass, BreaksApart
      (visit Rule.standard ctx (site.tag :: site.ancestors) site.children scope pass).1)
    (pass : Pass) :
    BreaksApart [((Rule.decideAll ctx site Rule.standard).settle
      (visit Rule.standard ctx (site.tag :: site.ancestors) site.children) site.tag pass).1] := by
  have around : ∀ content scope pass, BreaksApart [.mk content
      (visit Rule.standard ctx (site.tag :: site.ancestors) site.children scope pass).1] :=
    fun _ scope pass => breaksApart_mk (separateBreaks_visit _ _ scope pass) (looks scope pass)
  cases (@Rule.decideAll_builds ctx site Rule.standard).ended
      (visit Rule.standard ctx (site.tag :: site.ancestors) site.children) pass with
  | shown scope content shows becomes =>
    rw [becomes]
    cases scope with
    | nothing => exact around content .nothing pass
    | first | all => exact around content _ pass
  | boxed isBox box made becomes =>
    rw [becomes]
    exact around (.checkbox box) .nothing pass
  | left alone failures becomes =>
    rw [becomes]
    exact around _ .all _

theorem breaksApart_transform (ctx : Context) (document : Markup) (start : Int) :
    BreaksApart [(transform Rule.standard ctx document start).1] :=
  @transformNode_induction₂ Rule.standard Rule.standard ctx ctx
    (fun _ _ made _ => BreaksApart made.1)
    (fun _ _ _ member => absurd member List.not_mem_nil)
    (fun first rest => first.cons rest)
    (fun _ _ _ => breaksApart_singleton.mpr fun _ => separateBreaks_transformText)
    (fun _ looks p _ => breaksApart_settle (fun scope pass => looks scope pass pass) p)
    [] [] document (Pass.start start) (Pass.start start)

/-- **A run of blank paragraphs breaks the line once.**  Of siblings that are shown in full,
whatever their attributes and wherever they are in the document, a blank paragraph is dropped just
if the next one is blank too, and otherwise breaks the line, as nothing else does; a run of them
shows one line break, at its end; and no two line breaks are siblings. -/
theorem collapsed_transform (ctx : Context) (document : Markup) (start : Int) :
    (∀ (path : List Nat) (tag : Tag) (children : List Markup) (tree : Node),
      document.at? path = some (.element tag children) →
      (transform Rule.standard ctx document start).1.at? (path.map Int.ofNat) = some tree →
      tree.content.showsAll = true →
      Collapsed children tree.children ∧
        ∀ before run after : List Markup, children = before ++ run ++ after → run ≠ [] →
          (∀ node ∈ run, node.isBlankParagraph = true) → Markup.isBlankAt after 0 = false →
          ((tree.children.drop before.length).take run.length).map Node.content =
            List.replicate (run.length - 1) .dropped ++ [.lineBreak]) ∧
    ∀ node ∈ (transform Rule.standard ctx document start).1.walk,
      SeparateBreaks node.children := by
  refine ⟨fun path tag children tree inDocument inTree full => ?_,
    breaksApart_singleton.mp (breaksApart_transform ctx document start)⟩
  have image : IsImage Rule.standard ctx document (transform Rule.standard ctx document start).1 :=
    ⟨[], [], Pass.start start, rfl⟩
  have collapsed := (image.at? inDocument inTree).collapsed full
  refine ⟨collapsed, fun before run after split nonempty blank ends => ?_⟩
  subst split
  exact collapsed.contents_run nonempty blank ends

/-! ### A task item -/

/-- A task item with three blank paragraphs in its content, the second of which is a quest block. -/
def spacedItem : Markup :=
  .element ⟨"li", [("data-type", "taskItem")]⟩
    [.element ⟨"div", []⟩
      [.element ⟨"hr", []⟩ [], .element ⟨"p", [("class", "gap")]⟩ [],
        .element ⟨"p", [("data-type", "quest-block")]⟩ [], .element ⟨"p", []⟩ []]]

/-- The three paragraphs break the line once. -/
theorem collapsed_transform_spacedItem :
    ∃ tree, (transform Rule.standard .preview spacedItem 0).1.at? [0] = some tree ∧
      tree.content.showsAll = true ∧
      ((tree.children.drop 1).take 3).map Node.content = [.dropped, .dropped, .lineBreak] := by
  have runs := (collapsed_transform .preview spacedItem 0).1 [0] ⟨"div", []⟩ _ _ rfl rfl rfl
  refine ⟨_, rfl, rfl, ?_⟩
  exact runs.2 [_] [_, _, _] [] rfl nofun (by simp [Markup.isBlankParagraph]) rfl

end GuideMarkup
