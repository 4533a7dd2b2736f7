import GuideMarkup.Transform

/-!
# Proofs/Visit — one element of a walk, and what every walk keeps

    declined          ↦  the element around all its children
    shown, numbered   ↦  the node that the rule builds
    failed            ↦  the element around all its children, visited anew

`transformNode_element` says what becomes of an element once its rules have decided, and
`Decision.settle_cases` in how many ways.  A walk can follow any decisions (`Decider.image`), and
the walk by rules follows theirs.  The one induction over the tree is `Decider.image_along₂`, for
two walks along one document; `Kept.transformNode` is its use for a single walk: a property of
stretches of a walk that every step keeps holds of the whole walk.
-/

namespace GuideMarkup

variable {rules rules' : List Rule} {ctx ctx' : Context}

/-! ## One text -/

/-- The ways in which a text can be settled. -/
inductive SettledText (ctx : Context) (value : String) (pass : Pass) (result : Node × Pass) : Prop
  | hidden (hides : ctx.hides value = .ok true)
      (becomes : result = (Node.leaf (.hiddenLink ctx.hiddenLinkText), pass))
  | plain (shows : ctx.hides value = .ok false) (none : split? value.toList = none)
      (becomes : result = (Node.text value, pass))
  | scanned (shows : ctx.hides value = .ok false) (pieces : List Piece)
      (found : split? value.toList = some pieces)
      (becomes : result = (Node.group (pieces.flatMap (pieceNodes ctx)), pass))
  | failed (fault : Fault) (fails : ctx.hides value = .error fault)
      (becomes : result = (Node.text value, ⟨pass.next, pass.fallbacks + 1⟩))

/-- **A text is settled in one of four ways.** -/
theorem transformText_cases (value : String) (pass : Pass) :
    SettledText ctx value pass (transformText ctx value pass) := by
  rw [transformText, textNode]
  cases hides : ctx.hides value with
  | error fault => exact .failed fault hides rfl
  | ok hidden =>
    cases hidden with
    | true => exact .hidden hides rfl
    | false =>
      cases found : split? value.toList with
      | none => exact .plain hides found rfl
      | some pieces => exact .scanned hides pieces found rfl

/-- Texts take no numbers. -/
theorem next_transformText (value : String) (pass : Pass) :
    (transformText ctx value pass).2.next = pass.next := by
  cases @transformText_cases ctx value pass <;> simp [*]

/-- What a text becomes does not depend on the counts. -/
theorem fst_transformText (value : String) (pass pass' : Pass) :
    (transformText ctx value pass).1 = (transformText ctx value pass').1 := by
  rw [transformText, transformText]
  cases textNode ctx value <;> rfl

/-- What a text becomes depends on four fields of the context. -/
theorem transformText_congr (whitelist : ctx.whitelist = ctx'.whitelist)
    (message : ctx.hiddenLinkText = ctx'.hiddenLinkText)
    (travelCopy : ctx.travelCopy = ctx'.travelCopy) (disabled : ctx.disabled = ctx'.disabled)
    (value : String) (pass : Pass) :
    transformText ctx value pass = transformText ctx' value pass := by
  have hides : ctx.hides value = ctx'.hides value := by
    simp only [Context.hides, Context.distrusts, Context.allows, whitelist]
  have pieces : pieceNodes ctx = pieceNodes ctx' := by
    funext piece
    cases piece with
    | plain text => rfl
    | coordinate found =>
      rw [pieceNodes, pieceNodes, Context.positionToken, Context.positionToken, travelCopy,
        disabled]
  rw [transformText, transformText, textNode, textNode, hides, pieces, message]

/-! ## One element -/

/-- The images of the children in scope. -/
def visit (rules : List Rule) (ctx : Context) (ancestors : List Tag) (children : List Markup) :
    Scope → Pass → List Node × Pass
  | .nothing, pass => ([], pass)
  | .first, pass => transformFirst rules ctx ancestors children pass
  | .all, pass => transformAll rules ctx ancestors children pass

/-- Nodes put into an element that is shown as it is. -/
def enclose (tag : Tag) (visited : List Node × Pass) : Node × Pass :=
  (Node.element tag visited.1, visited.2)

namespace Decision

variable {look : Scope → Pass → List Node × Pass} {tag : Tag} {pass : Pass} {decision : Decision}

/-- What becomes of an element by a decision, where `look` transforms the children in scope. -/
def settle (look : Scope → Pass → List Node × Pass) (tag : Tag) (pass : Pass)
    (decision : Decision) : Node × Pass :=
  match decision.run look pass with
  | (.ok (some node), after) => (node, after)
  | (.ok none, _) => enclose tag (look .all pass)
  | (.error _, spoilt) => enclose tag (look .all ⟨pass.next, spoilt.fallbacks + 1⟩)

theorem settle_decline : settle look tag pass .decline = enclose tag (look .all pass) := rfl

theorem settle_fail (fault : Fault) : settle look tag pass (.fail fault) =
    enclose tag (look .all ⟨pass.next, pass.fallbacks + 1⟩) := rfl

theorem settle_render_ok {scope : Scope} {build : List Node → Except Fault Node} {node : Node}
    (built : build (look scope pass).1 = .ok node) :
    settle look tag pass (.render scope build) = (node, (look scope pass).2) := by
  simp only [settle, run, built, Except.map]

theorem settle_render_error {scope : Scope} {build : List Node → Except Fault Node} {fault : Fault}
    (spoilt : build (look scope pass).1 = .error fault) :
    settle look tag pass (.render scope build) =
      enclose tag (look .all ⟨pass.next, (look scope pass).2.fallbacks + 1⟩) := by
  simp only [settle, run, spoilt, Except.map]

theorem settle_number_ok {build : Int → Except Fault Node} {node : Node}
    (built : build pass.next = .ok node) :
    settle look tag pass (.number build) = (node, ⟨pass.next + 1, pass.fallbacks⟩) := by
  simp only [settle, run, built, Except.map]

theorem settle_number_error {build : Int → Except Fault Node} {fault : Fault}
    (spoilt : build pass.next = .error fault) :
    settle look tag pass (.number build) =
      enclose tag (look .all ⟨pass.next, pass.fallbacks + 1⟩) := by
  simp only [settle, run, spoilt, Except.map]

/-- The ways in which a decision can be settled. -/
inductive Settled (look : Scope → Pass → List Node × Pass) (tag : Tag) (pass : Pass)
    (decision : Decision) (result : Node × Pass) : Prop
  | shown (scope : Scope) (build : List Node → Except Fault Node) (node : Node)
      (decided : decision = .render scope build) (built : build (look scope pass).1 = .ok node)
      (becomes : result = (node, (look scope pass).2))
  | numbered (build : Int → Except Fault Node) (node : Node) (decided : decision = .number build)
      (built : build pass.next = .ok node)
      (becomes : result = (node, ⟨pass.next + 1, pass.fallbacks⟩))
  | declined (decided : decision = .decline) (becomes : result = enclose tag (look .all pass))
  /-- The failure of a rule that had shown what is in `scope`. -/
  | failed (scope : Scope) (becomes : result =
      enclose tag (look .all ⟨pass.next, (look scope pass).2.fallbacks + 1⟩))

/-- **A decision is settled in one of four ways.**  A rule that fails at once counts as one that has
shown nothing before. -/
theorem settle_cases (nothing : look .nothing pass = ([], pass)) :
    Settled look tag pass decision (settle look tag pass decision) := by
  have at_once : (look .nothing pass).2.fallbacks = pass.fallbacks := by rw [nothing]
  cases decision with
  | decline => exact .declined rfl settle_decline
  | fail fault => exact .failed .nothing (by rw [settle_fail, at_once])
  | render scope build =>
    cases built : build (look scope pass).1 with
    | ok node => exact .shown scope build node rfl built (settle_render_ok built)
    | error fault => exact .failed scope (settle_render_error built)
  | number build =>
    cases built : build pass.next with
    | ok node => exact .numbered build node rfl built (settle_number_ok built)
    | error fault => exact .failed .nothing (by rw [settle_number_error built, at_once])

end Decision

/-- **What becomes of an element**: its rules decide, and the decision is settled. -/
theorem transformNode_element (ancestors : List Tag) (following : List Markup) (tag : Tag)
    (children : List Markup) (pass : Pass) :
    transformNode rules ctx ancestors following (.element tag children) pass =
      (Rule.decideAll ctx ⟨tag, children, ancestors, following⟩ rules).settle
        (visit rules ctx (tag :: ancestors) children) tag pass := by
  rw [transformNode]
  cases Rule.decideAll ctx ⟨tag, children, ancestors, following⟩ rules with
  | decline => rfl
  | fail fault => rfl
  | number build => rfl
  | render scope build => cases scope <;> rfl

/-! ## Walks by any decisions

A walk needs its rules only for what they decide.  A stretch of a walk is what it made of some
siblings, and the counts after it. -/

/-- The stretch of a walk that made one node. -/
def alone (made : Node × Pass) : List Node × Pass :=
  ([made.1], made.2)

/-- What is decided about each element. -/
def Decider := Site → Decision

/-- What a rule decides about each element. -/
def Rule.decider (ctx : Context) (rule : Rule) : Decider :=
  fun site => rule.decide ctx site

namespace Decider

/-- Of several deciders the first that does not decline has its way. -/
def firstOf : List Decider → Decider
  | [] => fun _ => .decline
  | decider :: rest => fun site =>
    match decider site with
    | .decline => firstOf rest site
    | taken => taken

/-- What rules decide in their order. -/
def ofRules (ctx : Context) (rules : List Rule) : Decider :=
  firstOf (rules.map (Rule.decider ctx))

theorem ofRules_apply (site : Site) :
    ∀ rules : List Rule, ofRules ctx rules site = Rule.decideAll ctx site rules
  | [] => rfl
  | rule :: rest => by
    rw [ofRules, List.map_cons, firstOf, Rule.decideAll, ← ofRules_apply site rest]
    rfl

mutual

/-- The image of a node in the walk by a decider. -/
def image (decider : Decider) (ctx : Context) (ancestors : List Tag) (following : List Markup) :
    Markup → Pass → Node × Pass
  | .text value, pass => transformText ctx value pass
  | .element tag children, pass =>
    let look (scope : Scope) (before : Pass) : List Node × Pass :=
      match scope with
      | .nothing => ([], before)
      | .first => firstImage decider ctx (tag :: ancestors) children before
      | .all => images decider ctx (tag :: ancestors) children before
    (decider ⟨tag, children, ancestors, following⟩).settle look tag pass

/-- The image of the first node of a list of siblings. -/
def firstImage (decider : Decider) (ctx : Context) (ancestors : List Tag) :
    List Markup → Pass → List Node × Pass
  | [], pass => ([], pass)
  | node :: rest, pass => alone (image decider ctx ancestors rest node pass)

/-- The images of all nodes of a list of siblings, in order. -/
def images (decider : Decider) (ctx : Context) (ancestors : List Tag) :
    List Markup → Pass → List Node × Pass
  | [], pass => ([], pass)
  | node :: rest, pass =>
    let (image, middle) := image decider ctx ancestors rest node pass
    let (images, after) := images decider ctx ancestors rest middle
    (image :: images, after)

end

/-- The images of the children in scope. -/
def visit (decider : Decider) (ctx : Context) (ancestors : List Tag) (children : List Markup) :
    Scope → Pass → List Node × Pass
  | .nothing, pass => ([], pass)
  | .first, pass => decider.firstImage ctx ancestors children pass
  | .all, pass => decider.images ctx ancestors children pass

/-- What becomes of an element: the decision about it is settled. -/
theorem image_element (decider : Decider) (ancestors : List Tag) (following : List Markup)
    (tag : Tag) (children : List Markup) (pass : Pass) :
    decider.image ctx ancestors following (.element tag children) pass =
      (decider ⟨tag, children, ancestors, following⟩).settle
        (decider.visit ctx (tag :: ancestors) children) tag pass := by
  rw [image]
  congr 1
  funext scope before
  cases scope <;> rfl

/-- **The walk by rules is the walk by what they decide.** -/
theorem image_ofRules : ∀ ancestors following node pass,
    (ofRules ctx rules).image ctx ancestors following node pass =
      transformNode rules ctx ancestors following node pass :=
  node
where
  node : ∀ ancestors following node pass,
      (ofRules ctx rules).image ctx ancestors following node pass =
        transformNode rules ctx ancestors following node pass
    | _, _, .text value, pass => by rw [image, transformNode]
    | ancestors, following, .element tag children, pass => by
      rw [image_element, transformNode_element, ofRules_apply]
      congr 1
      funext scope before
      cases scope with
      | nothing => rfl
      | first => exact first (tag :: ancestors) children before
      | all => exact all (tag :: ancestors) children before
  first : ∀ ancestors nodes pass,
      (ofRules ctx rules).firstImage ctx ancestors nodes pass =
        transformFirst rules ctx ancestors nodes pass
    | _, [], _ => rfl
    | ancestors, head :: rest, pass => congrArg alone (node ancestors rest head pass)
  all : ∀ ancestors nodes pass,
      (ofRules ctx rules).images ctx ancestors nodes pass =
        transformAll rules ctx ancestors nodes pass
    | _, [], _ => rfl
    | ancestors, head :: rest, pass => by
      simp only [images, transformAll, node ancestors rest, all ancestors rest]

/-- The children in scope have the same images in both walks. -/
theorem visit_ofRules (ancestors : List Tag) (children : List Markup) :
    (ofRules ctx rules).visit ctx ancestors children =
      GuideMarkup.visit rules ctx ancestors children := by
  funext scope pass
  cases scope with
  | nothing => rfl
  | first => exact image_ofRules.first ancestors children pass
  | all => exact image_ofRules.all ancestors children pass

end Decider

/-! ## Two walks over one document -/

/-- The children in scope. -/
def Scope.select : Scope → List Markup → List Markup
  | .nothing, _ => []
  | .first, children => children.take 1
  | .all, children => children

theorem Markup.mem_of_mem_select {scope : Scope} {nodes : List Markup} {node : Markup}
    (member : node ∈ scope.select nodes) : node ∈ nodes := by
  cases scope with
  | nothing => exact absurd member List.not_mem_nil
  | first => exact List.mem_of_mem_take member
  | all => exact member

section Along

variable {P : List Markup → Pass → Pass → List Node × Pass → List Node × Pass → Prop}

/-- **Induction over two walks along a document.**  A relation between some siblings and two
stretches of walks over them holds of whole documents if it holds of empty stretches and of texts,
if stretches can be joined, and if elements keep it. -/
theorem Decider.image_along₂ {decider decider' : Decider} (nil : ∀ p q, P [] p q ([], p) ([], q))
    (cons : ∀ {node rest p q n m p' q' ns ms p'' q''}, P [node] p q ([n], p') ([m], q') →
      P rest p' q' (ns, p'') (ms, q'') → P (node :: rest) p q (n :: ns, p'') (m :: ms, q''))
    (text : ∀ value p q, P [.text value] p q
      (alone (transformText ctx value p)) (alone (transformText ctx' value q)))
    (element : ∀ site : Site,
      (∀ scope p q, P (scope.select site.children) p q
        (decider.visit ctx (site.tag :: site.ancestors) site.children scope p)
        (decider'.visit ctx' (site.tag :: site.ancestors) site.children scope q)) →
      ∀ p q, P [.element site.tag site.children] p q
        (alone ((decider site).settle
          (decider.visit ctx (site.tag :: site.ancestors) site.children) site.tag p))
        (alone ((decider' site).settle
          (decider'.visit ctx' (site.tag :: site.ancestors) site.children) site.tag q))) :
    ∀ ancestors following node p q, P [node] p q
      (alone (decider.image ctx ancestors following node p))
      (alone (decider'.image ctx' ancestors following node q)) :=
  node
where
  node : ∀ ancestors following node p q, P [node] p q
      (alone (decider.image ctx ancestors following node p))
      (alone (decider'.image ctx' ancestors following node q))
    | _, _, .text value, p, q => by
      simp only [image]
      exact text value p q
    | ancestors, following, .element tag children, p, q => by
      rw [image_element, image_element]
      refine element ⟨tag, children, ancestors, following⟩ (fun scope p q => ?_) p q
      cases scope with
      | nothing => exact nil p q
      | first => exact first (tag :: ancestors) children p q
      | all => exact all (tag :: ancestors) children p q
  first : ∀ ancestors nodes p q, P (nodes.take 1) p q
      (decider.firstImage ctx ancestors nodes p) (decider'.firstImage ctx' ancestors nodes q)
    | _, [], p, q => nil p q
    | ancestors, head :: rest, p, q => node ancestors rest head p q
  all : ∀ ancestors nodes p q, P nodes p q
      (decider.images ctx ancestors nodes p) (decider'.images ctx' ancestors nodes q)
    | _, [], p, q => nil p q
    | ancestors, head :: rest, p, q =>
      cons (node ancestors rest head p q) (all ancestors rest _ _)

/-- Induction over two walks by rules along a document. -/
theorem transformNode_along₂ (nil : ∀ p q, P [] p q ([], p) ([], q))
    (cons : ∀ {node rest p q n m p' q' ns ms p'' q''}, P [node] p q ([n], p') ([m], q') →
      P rest p' q' (ns, p'') (ms, q'') → P (node :: rest) p q (n :: ns, p'') (m :: ms, q''))
    (text : ∀ value p q, P [.text value] p q
      (alone (transformText ctx value p)) (alone (transformText ctx' value q)))
    (element : ∀ site : Site,
      (∀ scope p q, P (scope.select site.children) p q
        (visit rules ctx (site.tag :: site.ancestors) site.children scope p)
        (visit rules' ctx' (site.tag :: site.ancestors) site.children scope q)) →
      ∀ p q, P [.element site.tag site.children] p q
        (alone ((Rule.decideAll ctx site rules).settle
          (visit rules ctx (site.tag :: site.ancestors) site.children) site.tag p))
        (alone ((Rule.decideAll ctx' site rules').settle
          (visit rules' ctx' (site.tag :: site.ancestors) site.children) site.tag q)))
    (ancestors : List Tag) (following : List Markup) (node : Markup) (p q : Pass) : P [node] p q
      (alone (transformNode rules ctx ancestors following node p))
      (alone (transformNode rules' ctx' ancestors following node q)) := by
  rw [← Decider.image_ofRules, ← Decider.image_ofRules]
  refine Decider.image_along₂ nil cons text (fun site look => ?_) ancestors following node p q
  rw [Decider.visit_ofRules, Decider.visit_ofRules] at look ⊢
  rw [Decider.ofRules_apply, Decider.ofRules_apply]
  exact element site look

end Along

section Both

variable {P : Pass → Pass → List Node × Pass → List Node × Pass → Prop}

/-- **Induction over two walks**, for a relation that does not depend on the siblings. -/
theorem Decider.image_induction₂ {decider decider' : Decider} (nil : ∀ p q, P p q ([], p) ([], q))
    (cons : ∀ {p q n m p' q' ns ms p'' q''}, P p q ([n], p') ([m], q') →
      P p' q' (ns, p'') (ms, q'') → P p q (n :: ns, p'') (m :: ms, q''))
    (text : ∀ value p q,
      P p q (alone (transformText ctx value p)) (alone (transformText ctx' value q)))
    (element : ∀ site : Site,
      (∀ scope p q, P p q
        (decider.visit ctx (site.tag :: site.ancestors) site.children scope p)
        (decider'.visit ctx' (site.tag :: site.ancestors) site.children scope q)) →
      ∀ p q, P p q
        (alone ((decider site).settle
          (decider.visit ctx (site.tag :: site.ancestors) site.children) site.tag p))
        (alone ((decider' site).settle
          (decider'.visit ctx' (site.tag :: site.ancestors) site.children) site.tag q))) :
    ∀ ancestors following node p q, P p q
      (alone (decider.image ctx ancestors following node p))
      (alone (decider'.image ctx' ancestors following node q)) :=
  Decider.image_along₂ (P := fun _ => P) nil cons text element

/-- Induction over two walks by rules. -/
theorem transformNode_induction₂ (nil : ∀ p q, P p q ([], p) ([], q))
    (cons : ∀ {p q n m p' q' ns ms p'' q''}, P p q ([n], p') ([m], q') →
      P p' q' (ns, p'') (ms, q'') → P p q (n :: ns, p'') (m :: ms, q''))
    (text : ∀ value p q,
      P p q (alone (transformText ctx value p)) (alone (transformText ctx' value q)))
    (element : ∀ site : Site,
      (∀ scope p q, P p q
        (visit rules ctx (site.tag :: site.ancestors) site.children scope p)
        (visit rules' ctx' (site.tag :: site.ancestors) site.children scope q)) →
      ∀ p q, P p q
        (alone ((Rule.decideAll ctx site rules).settle
          (visit rules ctx (site.tag :: site.ancestors) site.children) site.tag p))
        (alone ((Rule.decideAll ctx' site rules').settle
          (visit rules' ctx' (site.tag :: site.ancestors) site.children) site.tag q)))
    (ancestors : List Tag) (following : List Markup) (node : Markup) (p q : Pass) : P p q
      (alone (transformNode rules ctx ancestors following node p))
      (alone (transformNode rules' ctx' ancestors following node q)) :=
  transformNode_along₂ (P := fun _ => P) nil cons text element ancestors following node p q

end Both

/-! ## One walk -/

/-- A property of stretches of walks that every step of a walk keeps: `P before (nodes, after)`. -/
structure Kept (rules : List Rule) (ctx : Context) (P : Pass → List Node × Pass → Prop) :
    Prop where
  nil : ∀ pass, P pass ([], pass)
  cons : ∀ {pass node middle nodes after},
    P pass ([node], middle) → P middle (nodes, after) → P pass (node :: nodes, after)
  text : ∀ value pass, P pass (alone (transformText ctx value pass))
  shown : ∀ {site scope build pass nodes node after},
    Rule.decideAll ctx site rules = .render scope build → (scope = .nothing → nodes = []) →
      build nodes = .ok node → P pass (nodes, after) → P pass ([node], after)
  numbered : ∀ {site build pass node}, Rule.decideAll ctx site rules = .number build →
    build pass.next = .ok node → P pass ([node], ⟨pass.next + 1, pass.fallbacks⟩)
  enclosed : ∀ {pass nodes after} tag,
    P pass (nodes, after) → P pass ([Node.element tag nodes], after)
  /-- What a failing rule had shown is thrown away, except for the count of failures. -/
  again : ∀ {pass spoilt failed nodes after}, P pass (spoilt, failed) →
    P ⟨pass.next, failed.fallbacks + 1⟩ (nodes, after) → P pass (nodes, after)

/-- **What every step keeps holds of a walk.** -/
theorem Kept.transformNode {P : Pass → List Node × Pass → Prop} (kept : Kept rules ctx P)
    (ancestors : List Tag) (following : List Markup) (node : Markup) (pass : Pass) :
    P pass (alone (transformNode rules ctx ancestors following node pass)) := by
  refine @transformNode_induction₂ rules rules ctx ctx (fun p _ made _ => P p made)
    (fun p _ => kept.nil p) kept.cons (fun value p _ => kept.text value p) (fun site look p _ => ?_)
    ancestors following node pass pass
  have look := fun scope p => look scope p p
  generalize visited : visit rules ctx (site.tag :: site.ancestors) site.children = sees at look ⊢
  have nothing : ∀ p, sees .nothing p = ([], p) := fun p => by rw [← visited]; rfl
  cases Decision.settle_cases (nothing p) with
  | shown scope build node decided built becomes =>
    rw [becomes]
    refine kept.shown decided ?_ built (look scope p)
    rintro rfl
    rw [nothing]
  | numbered build node decided built becomes =>
    rw [becomes]
    exact kept.numbered decided built
  | declined decided becomes =>
    rw [becomes]
    exact kept.enclosed site.tag (look .all p)
  | failed scope becomes =>
    rw [becomes]
    exact kept.enclosed site.tag (kept.again (look scope p) (look .all _))

end GuideMarkup
