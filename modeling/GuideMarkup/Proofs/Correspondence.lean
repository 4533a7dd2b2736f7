import GuideMarkup.Proofs.Occurrence
import Mathlib.Data.List.Forall2

/-!
# Proofs/Correspondence — every node that is visited becomes one node

    text               ↦  a text, a group of its pieces, or a hidden link
    blank paragraph    ↦  a line break, or nothing to see
    image, checkbox    ↦  an image, a box, both without children
    custom tag         ↦  a resource around the image of its first child
    any other element  ↦  a node around the images of all its children, in order

`Becomes` says what the markup at a place can become, and leaves open only which number a box takes.
An element is shown as it is just where its rules leave it alone: they all decline, or the one that
takes it fails, and that whatever the children have become (`Decision.Builds.ended`).  The main
statement, `becomes_transform`, is an induction over places.
-/

namespace GuideMarkup

variable {rules : List Rule} {ctx : Context} {site : Site}

/-! ## Places -/

/-- A markup node in its place. -/
structure Place where
  /-- The tags around the node, innermost first. -/
  ancestors : List Tag
  node : Markup
  /-- The siblings after the node. -/
  following : List Markup

/-- The place of a whole document. -/
def Place.top (document : Markup) : Place :=
  ⟨[], document, []⟩

/-- The places of siblings, in order. -/
def Place.row (ancestors : List Tag) : List Markup → List Place
  | [] => []
  | node :: rest => ⟨ancestors, node, rest⟩ :: row ancestors rest

namespace Site

/-- The place of an element. -/
def place (site : Site) : Place :=
  ⟨site.ancestors, .element site.tag site.children, site.following⟩

/-- The places of the children in scope. -/
def inside (site : Site) : Scope → List Place
  | .nothing => []
  | .first => (Place.row (site.tag :: site.ancestors) site.children).take 1
  | .all => Place.row (site.tag :: site.ancestors) site.children

end Site

/-! ## Elements that are left alone -/

/-- The element is left as it is: the decision is to decline, or it fails, whatever the children
have become and whatever number is next. -/
def Decision.LeavesAlone : Decision → Prop
  | .decline | .fail _ => True
  | .render _ build => ∀ nodes, ∃ fault, build nodes = .error fault
  | .number build => ∀ index, ∃ fault, build index = .error fault

/-- Only the table of checked boxes can be missing for a box, and then it is missing for all. -/
theorem Context.exists_checkbox_error {index : Int} {fault : Fault}
    (fails : ctx.checkbox index = .error fault) (index' : Int) :
    ∃ fault, ctx.checkbox index' = .error fault := by
  rw [checkbox] at fails ⊢
  split at fails
  · rename_i hasStep
    rw [if_pos hasStep]
    cases known : need .checked ctx.checked with
    | error missing => exact ⟨missing, by rw [isChecked, known]; rfl⟩
    | ok checked =>
      rw [isChecked, known] at fails
      exact absurd fails nofun
  · exact absurd fails nofun

/-- The ways in which a decision about an element can end. -/
inductive Decision.Ended (ctx : Context) (site : Site) (look : Scope → Pass → List Node × Pass)
    (pass : Pass) (decision : Decision) (result : Node × Pass) : Prop
  | shown (scope : Scope) (content : Content) (shows : Shows ctx site scope content)
      (becomes : result = (.mk content (scope.over (look scope pass).1), (look scope pass).2))
  | boxed (isBox : site.tag.isCheckbox = true) (box : Checkbox)
      (made : ctx.checkbox pass.next = .ok box)
      (becomes : result = (Node.leaf (.checkbox box), ⟨pass.next + 1, pass.fallbacks⟩))
  | left (alone : decision.LeavesAlone) (failures : Nat)
      (becomes : result = enclose site.tag (look .all ⟨pass.next, failures⟩))

/-- **What builds one content whatever the children have become** shows it, numbers a box, or leaves
the element alone. -/
theorem Decision.Builds.ended {decision : Decision} (builds : decision.Builds ctx site)
    (look : Scope → Pass → List Node × Pass) (pass : Pass) :
    decision.Ended ctx site look pass (decision.settle look site.tag pass) := by
  cases decision with
  | decline => exact .left trivial pass.fallbacks rfl
  | fail fault => exact .left trivial _ (settle_fail fault)
  | render scope build =>
    obtain ⟨made, built, shows⟩ := builds
    cases made with
    | ok content => exact .shown scope content (shows content rfl) (settle_render_ok (built _))
    | error fault =>
      exact .left (fun nodes => ⟨fault, built nodes⟩) _ (settle_render_error (built _))
  | number build =>
    obtain ⟨isBox, built⟩ := builds
    have result := built pass.next
    cases made : ctx.checkbox pass.next with
    | ok box =>
      rw [made] at result
      exact .boxed isBox box made (settle_number_ok result)
    | error fault =>
      rw [made] at result
      refine .left (fun index => ?_) _ (settle_number_error result)
      obtain ⟨fault', missing⟩ := Context.exists_checkbox_error made index
      exact ⟨fault', by rw [built, missing]; rfl⟩

/-! ## What a place becomes -/

/-- **What the markup at a place becomes.** -/
inductive Becomes (rules : List Rule) (ctx : Context) : Place → Node → Prop
  /-- An untrusted address is hidden. -/
  | hidden {ancestors : List Tag} {value : String} {following : List Markup}
      (hides : ctx.hides value = .ok true) :
      Becomes rules ctx ⟨ancestors, .text value, following⟩
        (Node.leaf (.hiddenLink ctx.hiddenLinkText))
  /-- A text without coordinates stays as it is. -/
  | text {ancestors : List Tag} {value : String} {following : List Markup}
      (shows : ctx.hides value = .ok false) (none : split? value.toList = none) :
      Becomes rules ctx ⟨ancestors, .text value, following⟩ (Node.text value)
  /-- A text with coordinates becomes the group of its pieces. -/
  | pieces {ancestors : List Tag} {value : String} {following : List Markup}
      (shows : ctx.hides value = .ok false) (pieces : List Piece)
      (found : split? value.toList = some pieces) :
      Becomes rules ctx ⟨ancestors, .text value, following⟩
        (Node.group (pieces.flatMap (pieceNodes ctx)))
  /-- A text that fails stays as it is. -/
  | unread {ancestors : List Tag} {value : String} {following : List Markup} (fault : Fault)
      (fails : ctx.hides value = .error fault) :
      Becomes rules ctx ⟨ancestors, .text value, following⟩ (Node.text value)
  /-- What an element is shown as has the images of the children in scope. -/
  | shown (site : Site) {scope : Scope} {content : Content} {nodes : List Node}
      (shows : Shows ctx site scope content)
      (below : List.Forall₂ (Becomes rules ctx) (site.inside scope) nodes) :
      Becomes rules ctx site.place (.mk content nodes)
  /-- A checkbox becomes a box of some number. -/
  | box (site : Site) (isBox : site.tag.isCheckbox = true) {index : Int} {box : Checkbox}
      (made : ctx.checkbox index = .ok box) :
      Becomes rules ctx site.place (Node.leaf (.checkbox box))
  /-- An element that is left alone keeps its tag, its attributes and all its children. -/
  | kept (site : Site) {nodes : List Node}
      (left : (Rule.decideAll ctx site rules).LeavesAlone)
      (below : List.Forall₂ (Becomes rules ctx) (site.inside .all) nodes) :
      Becomes rules ctx site.place (Node.element site.tag nodes)

theorem becomes_transformText (ancestors : List Tag) (value : String) (following : List Markup)
    (pass : Pass) :
    Becomes rules ctx ⟨ancestors, .text value, following⟩ (transformText ctx value pass).1 := by
  cases @transformText_cases ctx value pass with
  | hidden hides becomes =>
    rw [becomes]
    exact .hidden hides
  | plain shows none becomes =>
    rw [becomes]
    exact .text shows none
  | scanned shows pieces found becomes =>
    rw [becomes]
    exact .pieces shows pieces found
  | failed fault fails becomes =>
    rw [becomes]
    exact .unread fault fails

/-- An element becomes what its rules decide, if its children have been visited in their places. -/
theorem becomes_settle {look : Scope → Pass → List Node × Pass}
    (below : ∀ scope pass, List.Forall₂ (Becomes rules ctx) (site.inside scope) (look scope pass).1)
    (pass : Pass) :
    Becomes rules ctx site.place ((Rule.decideAll ctx site rules).settle look site.tag pass).1 := by
  cases (@Rule.decideAll_builds ctx site rules).ended look pass with
  | shown scope content shows becomes =>
    rw [becomes]
    refine .shown site shows ?_
    cases scope with
    | nothing => exact .nil
    | first | all => exact below _ pass
  | boxed isBox box made becomes =>
    rw [becomes]
    exact .box site isBox made
  | left alone failures becomes =>
    rw [becomes]
    exact .kept site alone (below .all _)

/-! ## Walks -/

/-- **Every place becomes what the walk makes of it.** -/
theorem becomes_transformNode : ∀ (ancestors : List Tag) (following : List Markup) (node : Markup)
    (pass : Pass), Becomes rules ctx ⟨ancestors, node, following⟩
      (transformNode rules ctx ancestors following node pass).1 :=
  node
where
  node : ∀ (ancestors : List Tag) (following : List Markup) (node : Markup) (pass : Pass),
      Becomes rules ctx ⟨ancestors, node, following⟩
        (transformNode rules ctx ancestors following node pass).1
    | ancestors, following, .text value, pass => by
      rw [transformNode]
      exact becomes_transformText ancestors value following pass
    | ancestors, following, .element tag children, pass => by
      rw [transformNode_element]
      refine @becomes_settle rules ctx ⟨tag, children, ancestors, following⟩ _
        (fun scope before => ?_) pass
      cases scope with
      | nothing => exact .nil
      | first => exact first (tag :: ancestors) children before
      | all => exact all (tag :: ancestors) children before
  first : ∀ (ancestors : List Tag) (nodes : List Markup) (pass : Pass),
      List.Forall₂ (Becomes rules ctx) ((Place.row ancestors nodes).take 1)
        (transformFirst rules ctx ancestors nodes pass).1
    | _, [], _ => .nil
    | ancestors, head :: rest, pass => .cons (node ancestors rest head pass) .nil
  all : ∀ (ancestors : List Tag) (nodes : List Markup) (pass : Pass),
      List.Forall₂ (Becomes rules ctx) (Place.row ancestors nodes)
        (transformAll rules ctx ancestors nodes pass).1
    | _, [], _ => .nil
    | ancestors, head :: rest, pass =>
      .cons (node ancestors rest head pass) (all ancestors rest _)

/-- **Every node of a document that is visited becomes one node**: an element that shows no children
has become a line break, an image or a box; a resource has the image of the first child; and any
other element has the images of all its children in their order, whatever failed on the way. -/
theorem becomes_transform (rules : List Rule) (ctx : Context) (document : Markup) (start : Int) :
    Becomes rules ctx (.top document) (transform rules ctx document start).1 :=
  becomes_transformNode [] [] document (Pass.start start)

end GuideMarkup
