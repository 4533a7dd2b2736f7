import GuideMarkup.Proofs.Lockstep
import GuideMarkup.Proofs.Occurrence

/-!
# Proofs/Widening — what a wider whitelist brings back

    defused link    ──more origins──▸  the link, around the same children
    hidden address  ──more origins──▸  the text, with its coordinates
    anything else   ──more origins──▸  the same

Only two questions are put to the whitelist, whether a link and whether a text is untrusted, and
with more origins an answer can only change from yes to no (`Context.distrusts_eases`).  No rule
fails or declines for it, so both walks make their decisions together and count alike.
-/

namespace GuideMarkup

variable {rules : List Rule} {ctx : Context} {origins origins' : List String} {site : Site}

/-- The context with the given origins on its whitelist. -/
def Context.withOrigins (ctx : Context) (origins : List String) : Context :=
  { ctx with whitelist := some origins }

/-! ## Answers -/

/-- Two answers to whether something is untrusted: they are the same, or a yes has become a no. -/
inductive Eases : Except Fault Bool → Except Fault Bool → Prop
  | same (answer : Except Fault Bool) : Eases answer answer
  | eased : Eases (.ok true) (.ok false)

namespace Context

/-- **With more origins an address is no longer untrusted, or as untrusted as before.** -/
theorem distrusts_eases (wider : origins ⊆ origins') (url : String) :
    Eases ((ctx.withOrigins origins).distrusts url) ((ctx.withOrigins origins').distrusts url) := by
  rw [distrusts, distrusts]
  cases originOf url with
  | none => exact .same _
  | some origin =>
    change Eases (.ok !origins.contains origin) (.ok !origins'.contains origin)
    cases listed : origins.contains origin with
    | true =>
      have listed' : origins'.contains origin = true :=
        List.contains_iff_mem.mpr (wider (List.contains_iff_mem.mp listed))
      rw [listed']
      exact .same _
    | false =>
      cases origins'.contains origin with
      | true => exact .eased
      | false => exact .same _

theorem hides_eases (wider : origins ⊆ origins') (text : String) :
    Eases ((ctx.withOrigins origins).hides text) ((ctx.withOrigins origins').hides text) := by
  rw [hides, hides]
  split
  · exact distrusts_eases wider _
  · exact .same _

end Context

/-! ## What may come back -/

mutual

/-- **What the nodes for a markup node may be** before and after the whitelist has become wider. -/
inductive BroughtBack (ctx ctx' : Context) : Markup → Node → Node → Prop
  /-- A text is the same. -/
  | text (value : String) (node : Node) : BroughtBack ctx ctx' (.text value) node node
  /-- A hidden address is the text that it stands for. -/
  | shown (value : String) {node : Node} (hidden : ctx.hides value = .ok true)
      (shows : ctx'.hides value = .ok false) (scanned : textNode ctx' value = .ok node) :
      BroughtBack ctx ctx' (.text value) (Node.leaf (.hiddenLink ctx.hiddenLinkText)) node
  /-- An element has the same content around the nodes for the same children. -/
  | element (tag : Tag) (children : List Markup) (scope : Scope) (content : Content)
      {trees trees' : List Node}
      (below : AllBroughtBack ctx ctx' (scope.select children) trees trees') :
      BroughtBack ctx ctx' (.element tag children) (.mk content trees) (.mk content trees')
  /-- A defused link is a link around the nodes for all its children. -/
  | link (tag : Tag) (children : List Markup) {trees trees' : List Node} (name : tag.name = "a")
      (untrusted : ctx.distrusts (tag.attr "href") = .ok true)
      (trusted : ctx'.distrusts (tag.attr "href") = .ok false)
      (below : AllBroughtBack ctx ctx' children trees trees') :
      BroughtBack ctx ctx' (.element tag children) (Node.group trees)
        (.mk (.anchor ⟨tag.attr "href", true, ctx.disabled⟩) trees')

/-- The nodes for siblings may be so, one by one. -/
inductive AllBroughtBack (ctx ctx' : Context) : List Markup → List Node → List Node → Prop
  | nil : AllBroughtBack ctx ctx' [] [] []
  | cons {place : Markup} {places : List Markup} {tree tree' : Node} {trees trees' : List Node}
      (first : BroughtBack ctx ctx' place tree tree')
      (rest : AllBroughtBack ctx ctx' places trees trees') :
      AllBroughtBack ctx ctx' (place :: places) (tree :: trees) (tree' :: trees')

end

variable {ctx' : Context}

theorem allBroughtBack_singleton {place : Markup} {tree tree' : Node} :
    AllBroughtBack ctx ctx' [place] [tree] [tree'] ↔ BroughtBack ctx ctx' place tree tree' := by
  refine ⟨fun all => ?_, fun first => .cons first .nil⟩
  cases all with
  | cons first _ => exact first

theorem AllBroughtBack.over {scope : Scope} {places : List Markup} {trees trees' : List Node}
    (all : AllBroughtBack ctx ctx' (scope.select places) trees trees') :
    AllBroughtBack ctx ctx' (scope.select places) (scope.over trees) (scope.over trees') := by
  cases scope with
  | nothing => exact .nil
  | first | all => exact all

/-! ## Texts -/

/-- A text that is not hidden is scanned, which does not depend on the whitelist. -/
theorem Context.textNode_withOrigins {value : String}
    (same : (ctx.withOrigins origins).hides value = (ctx.withOrigins origins').hides value) :
    textNode (ctx.withOrigins origins) value = textNode (ctx.withOrigins origins') value := by
  rw [textNode, textNode, same]
  rfl

/-- A text is the same, or is no longer hidden. -/
theorem broughtBack_transformText (wider : origins ⊆ origins') (value : String) (pass : Pass) :
    BroughtBack (ctx.withOrigins origins) (ctx.withOrigins origins') (.text value)
        (transformText (ctx.withOrigins origins) value pass).1
        (transformText (ctx.withOrigins origins') value pass).1 ∧
      (transformText (ctx.withOrigins origins) value pass).2 =
        (transformText (ctx.withOrigins origins') value pass).2 := by
  have eases := @Context.hides_eases ctx origins origins' wider value
  generalize before : (ctx.withOrigins origins).hides value = answer,
    after : (ctx.withOrigins origins').hides value = answer' at eases
  cases eases with
  | same =>
    rw [transformText, transformText, Context.textNode_withOrigins (before.trans after.symm)]
    exact ⟨.text value _, rfl⟩
  | eased =>
    obtain ⟨node, scanned⟩ : ∃ node, textNode (ctx.withOrigins origins') value = .ok node := by
      rw [textNode, after]
      cases split? value.toList with
      | none => exact ⟨_, rfl⟩
      | some pieces => exact ⟨_, rfl⟩
    have hidden : textNode (ctx.withOrigins origins) value =
        .ok (Node.leaf (.hiddenLink ctx.hiddenLinkText)) := by
      rw [textNode, before]
      rfl
    rw [transformText, transformText, hidden, scanned]
    exact ⟨.shown value before after scanned, rfl⟩

/-! ## Decisions -/

/-- Two decisions about an element are the same, or they are about a link that is no longer
defused. -/
inductive Decision.Frees (ctx ctx' : Context) (site : Site) : Decision → Decision → Prop
  | same (decision : Decision) : Frees ctx ctx' site decision decision
  | link (name : site.tag.name = "a")
      (untrusted : ctx.distrusts (site.tag.attr "href") = .ok true)
      (trusted : ctx'.distrusts (site.tag.attr "href") = .ok false) :
      Frees ctx ctx' site (.render .all fun nodes => .ok (Node.group nodes))
        (.wrap (.anchor ⟨site.tag.attr "href", true, ctx.disabled⟩))

theorem Decision.Frees.decline_iff {decision decision' : Decision}
    (frees : decision.Frees ctx ctx' site decision') :
    decision = .decline ↔ decision' = .decline := by
  cases frees with
  | same => rfl
  | link => simp [Decision.wrap]

/-- What is untrusted is a web address. -/
theorem Context.isWebUrl_of_distrusts {url : String} (untrusted : ctx.distrusts url = .ok true) :
    isWebUrl url = true := by
  rw [isWebUrl_iff_originOf]
  rw [distrusts] at untrusted
  cases reads : originOf url with
  | none =>
    rw [reads] at untrusted
    exact absurd (Except.ok.inj untrusted) Bool.false_ne_true
  | some origin => rfl

theorem decideAnchor_frees (wider : origins ⊆ origins') :
    (decideAnchor (ctx.withOrigins origins) site).Frees (ctx.withOrigins origins)
      (ctx.withOrigins origins') site (decideAnchor (ctx.withOrigins origins') site) := by
  rw [decideAnchor, decideAnchor]
  split
  · exact .same _
  rename_i name
  have eases := @Context.distrusts_eases ctx origins origins' wider (site.tag.attr "href")
  generalize before : (ctx.withOrigins origins).distrusts (site.tag.attr "href") = answer,
    after : (ctx.withOrigins origins').distrusts (site.tag.attr "href") = answer' at eases
  cases eases with
  | same =>
    simp only [before, after]
    exact .same _
  | eased =>
    have web := Context.isWebUrl_of_distrusts before
    simp only [before, after, web]
    exact .link (by simpa using name) before after

/-- **A rule decides the same with more origins**, or no longer defuses a link. -/
theorem Rule.decide_frees (wider : origins ⊆ origins') (rule : Rule) :
    (rule.decide (ctx.withOrigins origins) site).Frees (ctx.withOrigins origins)
      (ctx.withOrigins origins') site (rule.decide (ctx.withOrigins origins') site) := by
  cases rule with
  | anchor => exact decideAnchor_frees wider
  | _ => exact .same _

theorem Rule.decideAll_frees (wider : origins ⊆ origins') : ∀ rules : List Rule,
    (decideAll (ctx.withOrigins origins) site rules).Frees (ctx.withOrigins origins)
      (ctx.withOrigins origins') site (decideAll (ctx.withOrigins origins') site rules) :=
  decideAll_related (.same _) Decision.Frees.decline_iff (decide_frees wider)

/-! ## Elements -/

section Elements

variable {look look' : Scope → Pass → List Node × Pass}
  (looks : ∀ scope pass,
    AllBroughtBack ctx ctx' (scope.select site.children) (look scope pass).1 (look' scope pass).1 ∧
      (look scope pass).2 = (look' scope pass).2)

include looks

/-- One decision over children that may have come back: the content is the same, and the counts. -/
theorem broughtBack_settle_self {decision : Decision} (builds : decision.Builds ctx site)
    (pass : Pass) :
    BroughtBack ctx ctx' (.element site.tag site.children) (decision.settle look site.tag pass).1
        (decision.settle look' site.tag pass).1 ∧
      (decision.settle look site.tag pass).2 = (decision.settle look' site.tag pass).2 := by
  have around : ∀ (scope : Scope) (content : Content) (before : Pass),
      BroughtBack ctx ctx' (.element site.tag site.children)
          (.mk content (scope.over (look scope before).1))
          (.mk content (scope.over (look' scope before).1)) ∧
        (look scope before).2 = (look' scope before).2 := by
    intro scope content before
    obtain ⟨below, ends⟩ := looks scope before
    exact ⟨.element _ _ scope content below.over, ends⟩
  cases decision with
  | decline => exact around .all _ pass
  | fail fault =>
    rw [Decision.settle_fail, Decision.settle_fail]
    exact around .all _ _
  | render scope build =>
    obtain ⟨made, built, -⟩ := builds
    cases made with
    | error fault =>
      rw [Decision.settle_render_error (built _), Decision.settle_render_error (built _),
        (looks scope pass).2]
      exact around .all _ _
    | ok content =>
      rw [Decision.settle_render_ok (built _), Decision.settle_render_ok (built _)]
      exact around scope content pass
  | number build =>
    cases made : build pass.next with
    | error fault =>
      rw [Decision.settle_number_error made, Decision.settle_number_error made]
      exact around .all _ _
    | ok node =>
      obtain ⟨-, built⟩ := builds
      rw [built] at made
      obtain ⟨box, -, rfl⟩ := exists_ok_of_map made
      rw [← built] at made
      rw [Decision.settle_number_ok made, Decision.settle_number_ok made]
      exact ⟨.element _ _ .nothing _ .nil, rfl⟩

theorem broughtBack_settle {decision decision' : Decision}
    (frees : decision.Frees ctx ctx' site decision') (builds : decision.Builds ctx site)
    (pass : Pass) :
    BroughtBack ctx ctx' (.element site.tag site.children) (decision.settle look site.tag pass).1
        (decision'.settle look' site.tag pass).1 ∧
      (decision.settle look site.tag pass).2 = (decision'.settle look' site.tag pass).2 := by
  cases frees with
  | same => exact broughtBack_settle_self looks builds pass
  | link name untrusted trusted =>
    obtain ⟨below, ends⟩ := looks .all pass
    rw [Decision.settle_render_ok rfl, Decision.wrap, Decision.settle_render_ok rfl]
    exact ⟨.link _ _ name untrusted trusted below, ends⟩

end Elements

/-! ## Trees -/

/-- **Trust grows with the whitelist**: with more origins a document becomes the same tree with the
same counts, but for defused links that are links again and hidden addresses that are texts again;
and nothing is defused or hidden that was not before. -/
theorem broughtBack_transform (wider : origins ⊆ origins') (rules : List Rule) (ctx : Context)
    (document : Markup) (start : Int) :
    BroughtBack (ctx.withOrigins origins) (ctx.withOrigins origins') document
        (transform rules (ctx.withOrigins origins) document start).1
        (transform rules (ctx.withOrigins origins') document start).1 ∧
      (transform rules (ctx.withOrigins origins) document start).2 =
        (transform rules (ctx.withOrigins origins') document start).2 := by
  have walks := @transformNode_along₂ rules rules (ctx.withOrigins origins)
    (ctx.withOrigins origins')
    (fun places p q made made' => p = q →
      AllBroughtBack (ctx.withOrigins origins) (ctx.withOrigins origins') places made.1 made'.1 ∧
        made.2 = made'.2)
    (fun p q same => ⟨.nil, same⟩)
    (fun first rest same => by
      obtain ⟨here, middle⟩ := first same
      obtain ⟨after, ends⟩ := rest middle
      exact ⟨.cons (allBroughtBack_singleton.mp here) after, ends⟩)
    (fun value p q same => by
      obtain ⟨here, ends⟩ := @broughtBack_transformText ctx origins origins' wider value p
      exact same ▸ ⟨allBroughtBack_singleton.mpr here, ends⟩)
    (fun site looks p q same => by
      obtain ⟨here, ends⟩ := broughtBack_settle (fun scope pass => looks scope pass pass rfl)
        (Rule.decideAll_frees wider rules) (Rule.decideAll_builds rules) p
      exact same ▸ ⟨allBroughtBack_singleton.mpr here, ends⟩)
    [] [] document (Pass.start start) (Pass.start start) rfl
  exact ⟨allBroughtBack_singleton.mp walks.1, walks.2⟩

/-! ### An address with a coordinate in it -/

/-- A link to one origin, around an address of that origin, within a link to another origin. -/
def addressedLink : Markup :=
  .element ⟨"a", [("href", "https://b.org/")]⟩
    [.element ⟨"a", [("href", "https://a.org/x")]⟩ [.text "https://a.org/[1,2]"]]

/-- What is shown of it if nothing is trusted. -/
def defusedAddress : Node :=
  Node.group [Node.group [Node.leaf (.hiddenLink "hidden link")]]

/-- What is shown of it if the one origin is trusted. -/
def scannedAddress : Node :=
  Node.group [.mk (.anchor ⟨"https://a.org/x", true, false⟩)
    [Node.group [Node.text "https://a.org/", Node.leaf (.position ⟨1, 2, "[1,2]", false⟩)]]]

/-- The inner link and the address within it come back, and the outer link does not. -/
theorem broughtBack_transform_addressedLink :
    [] ⊆ ["https://a.org"] ∧
      (transform Rule.standard (Context.preview.withOrigins []) addressedLink 0).1 =
        defusedAddress ∧
      (transform Rule.standard (Context.preview.withOrigins ["https://a.org"]) addressedLink 0).1 =
        scannedAddress ∧
      BroughtBack (Context.preview.withOrigins []) (Context.preview.withOrigins ["https://a.org"])
        addressedLink defusedAddress scannedAddress := by
  have wider : [] ⊆ ["https://a.org"] := List.nil_subset _
  have back := (broughtBack_transform wider Rule.standard .preview addressedLink 0).1
  have before : (transform Rule.standard (Context.preview.withOrigins []) addressedLink 0).1 =
      defusedAddress := by rfl
  have pieces : split? "https://a.org/[1,2]".toList =
      some [.coordinate ⟨"https://a.org/".toList, 1, 2, []⟩] := by decide +kernel
  have text : textNode (Context.preview.withOrigins ["https://a.org"]) "https://a.org/[1,2]" =
      .ok (Node.group
        [Node.text "https://a.org/", Node.leaf (.position ⟨1, 2, "[1,2]", false⟩)]) := by
    have shown : (Context.preview.withOrigins ["https://a.org"]).hides "https://a.org/[1,2]" =
        .ok false := by rfl
    rw [textNode, shown, pieces]
    rfl
  have after : (transform Rule.standard (Context.preview.withOrigins ["https://a.org"])
      addressedLink 0).1 = scannedAddress := by
    have links : (transform Rule.standard (Context.preview.withOrigins ["https://a.org"])
        addressedLink 0).1 = Node.group [.mk (.anchor ⟨"https://a.org/x", true, false⟩)
          [(transformText (Context.preview.withOrigins ["https://a.org"]) "https://a.org/[1,2]"
            (Pass.start 0)).1]] := by rfl
    rw [links, transformText, text]
    rfl
  rw [before, after] at back
  exact ⟨wider, before, after, back⟩

end GuideMarkup
