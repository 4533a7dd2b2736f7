import GuideMarkup.Proofs.Numbering
import Mathlib.Data.List.Forall2

/-!
# Proofs/Stability — boxes stay where they are, whatever the surroundings

    ctx   ──  decline   show the same children   take a number   ·  fail
    ctx'  ──  decline   show the same children   take a number   ·  fail

Under two contexts that are both within a guide, or both outside, a rule decides alike as long as it
fails under neither (`Rule.decide_concurs`): what it shows may differ, but not which children it
shows it with.  So two walks without failures put the same boxes in the same places.  That a walk
had no failure is known only at its end, hence the relation of two stretches (`Stable`) says that
the counts of failures never fall, and speaks of boxes only where they stay.
-/

namespace GuideMarkup

variable {rules : List Rule} {ctx ctx' : Context} {site : Site}

/-! ## Boxes by place -/

namespace Node

/-- The number of the box at the end of a path, if there is a box. -/
def boxAt? (tree : Node) (path : List Int) : Option Int :=
  (tree.at? path).bind fun node => node.content.box?.map Checkbox.index

/-- Two trees have the same boxes in the same places. -/
def SameBoxes (tree tree' : Node) : Prop :=
  ∀ path, tree.boxAt? path = tree'.boxAt? path

theorem boxAt?_nil (content : Content) (trees : List Node) :
    (mk content trees).boxAt? [] = content.box?.map Checkbox.index := by
  rw [boxAt?, at?]
  rfl

theorem boxAt?_cons (content : Content) (trees : List Node) (index : Int) (path : List Int) :
    (mk content trees).boxAt? (index :: path) =
      (place? trees.length index).bind fun i => trees[i]?.bind fun child => child.boxAt? path := by
  rw [boxAt?, at?, Option.bind_assoc]
  refine congrArg _ (funext fun i => ?_)
  rw [Option.bind_assoc]
  rfl

theorem bind_boxAt?_of_sameBoxes {trees trees' : List Node}
    (below : List.Forall₂ SameBoxes trees trees') (path : List Int) (i : Nat) :
    (trees[i]?.bind fun child => child.boxAt? path) =
      trees'[i]?.bind fun child => child.boxAt? path := by
  induction below generalizing i with
  | nil => rfl
  | cons first _ ih =>
    cases i with
    | zero => exact first path
    | succ i => exact ih i

/-- Trees have the same boxes if they are the same box or none, and so are their children. -/
theorem sameBoxes_mk {content content' : Content} {trees trees' : List Node}
    (own : content.box?.map Checkbox.index = content'.box?.map Checkbox.index)
    (below : List.Forall₂ SameBoxes trees trees') :
    SameBoxes (mk content trees) (mk content' trees') := by
  intro path
  cases path with
  | nil => rw [boxAt?_nil, boxAt?_nil, own]
  | cons index path =>
    rw [boxAt?_cons, boxAt?_cons, below.length_eq]
    exact congrArg _ (funext fun i => bind_boxAt?_of_sameBoxes below path i)

theorem boxAt?_transformText (value : String) (pass : Pass) (path : List Int) :
    (transformText ctx value pass).1.boxAt? path = none := by
  rw [boxAt?, Option.bind_eq_none_iff]
  intro node there
  have inText := everywhere_transformText value pass _ List.mem_cons_self node
    (mem_walk_of_at? there)
  rw [box?_of_occursInText inText]
  rfl

end Node

/-! ## Decisions that concur -/

/-- Two decisions concur: one of them is a failure, or both show the same children, take a number or
decline.  Nothing is said of what they build. -/
inductive Decision.Concurs : Decision → Decision → Prop
  | decline : Concurs .decline .decline
  | failed (fault : Fault) (other : Decision) : Concurs (.fail fault) other
  | failed' (other : Decision) (fault : Fault) : Concurs other (.fail fault)
  | render (scope : Scope) (build build' : List Node → Except Fault Node) :
      Concurs (.render scope build) (.render scope build')
  | number (build build' : Int → Except Fault Node) : Concurs (.number build) (.number build')

theorem Decision.Concurs.refl (decision : Decision) : decision.Concurs decision := by
  cases decision with
  | decline => exact .decline
  | fail fault => exact .failed fault _
  | render scope build => exact .render scope build build
  | number build => exact .number build build

namespace Context

/-- A reference to a step leads somewhere iff it is to a guide that is there. -/
theorem isSome_of_stepTarget? {guide number : Int} {stepId : Option Int}
    {target : Option StepTarget} (leads : ctx.stepTarget? guide number stepId = .ok target) :
    target.isSome = (ctx.targetGuide? guide).isSome := by
  rw [stepTarget?] at leads
  split at leads
  · rename_i nowhere
    obtain rfl := Except.ok.inj leads
    rw [nowhere]
    rfl
  · rename_i entry there
    obtain ⟨info, -, leads⟩ := exists_ok_of_bind leads
    obtain ⟨guide, -, leads⟩ := exists_ok_of_bind leads
    obtain ⟨total, -, leads⟩ := exists_ok_of_bind leads
    simp only at leads
    split at leads
    · obtain ⟨saved, -, leads⟩ := exists_ok_of_bind leads
      obtain rfl := Except.ok.inj leads
      rw [there]
      rfl
    · obtain rfl := Except.ok.inj leads
      rw [there]
      rfl

theorem isSome_targetGuide? (both : ctx.guide.isSome = ctx'.guide.isSome) (guide : Int) :
    (ctx.targetGuide? guide).isSome = (ctx'.targetGuide? guide).isSome := by
  rw [targetGuide?, targetGuide?]
  split
  · exact both
  · rfl

/-- A reference leads somewhere under both contexts, or under neither. -/
theorem isSome_of_reference? (both : ctx.guide.isSome = ctx'.guide.isSome) {tag : Tag}
    {target target' : Option StepTarget} (leads : ctx.reference? tag = .ok target)
    (leads' : ctx'.reference? tag = .ok target') : target.isSome = target'.isSome := by
  rw [reference?] at leads leads'
  obtain ⟨guide, ofGuide, leads⟩ := exists_ok_of_bind leads
  obtain ⟨number, ofNumber, leads⟩ := exists_ok_of_bind leads
  rw [ofGuide, ofNumber] at leads'
  obtain ⟨_, ⟨⟩, leads'⟩ := exists_ok_of_bind leads'
  obtain ⟨_, ⟨⟩, leads'⟩ := exists_ok_of_bind leads'
  split at leads
  · obtain ⟨stepId, ofStep, leads⟩ := exists_ok_of_bind leads
    rw [ofStep] at leads'
    rw [isSome_of_stepTarget? leads, isSome_of_stepTarget? leads']
    exact isSome_targetGuide? both _
  · rename_i nowhere
    split at leads'
    · exact absurd rfl (nowhere _ _ rfl)
    · obtain rfl := Except.ok.inj leads
      obtain rfl := Except.ok.inj leads'
      rfl

end Context

theorem decideGuideStep_concurs (both : ctx.guide.isSome = ctx'.guide.isSome) :
    (decideGuideStep ctx site).Concurs (decideGuideStep ctx' site) := by
  rw [decideGuideStep, decideGuideStep]
  split
  · exact .decline
  cases leads : ctx.reference? site.tag with
  | error fault => exact .failed fault _
  | ok target =>
  cases leads' : ctx'.reference? site.tag with
  | error fault => exact .failed' _ fault
  | ok target' =>
  have same := Context.isSome_of_reference? both leads leads'
  cases target with
  | none =>
    cases target' with
    | none => exact .decline
    | some target' => exact absurd same Bool.false_ne_true
  | some target =>
    cases target' with
    | none => exact absurd same.symm Bool.false_ne_true
    | some target' =>
      simp only
      split
      · exact .failed _ _
      · split
        · exact .failed' _ _
        · exact .render .all _ _

theorem decideCustomTag_concurs :
    (decideCustomTag ctx site).Concurs (decideCustomTag ctx' site) := by
  rw [decideCustomTag, decideCustomTag]
  split
  · exact .decline
  split
  · exact .decline
  · exact .render .first _ _

theorem decideImage_concurs : (decideImage ctx site).Concurs (decideImage ctx' site) := by
  rw [decideImage, decideImage]
  split
  · exact .decline
  · exact .render .nothing _ _

theorem decideAnchor_concurs : (decideAnchor ctx site).Concurs (decideAnchor ctx' site) := by
  rw [decideAnchor, decideAnchor]
  split
  · exact .decline
  · exact .render .all _ _

theorem decideCheckbox_concurs : (decideCheckbox ctx site).Concurs (decideCheckbox ctx' site) := by
  rw [decideCheckbox, decideCheckbox]
  split
  · exact .number _ _
  · exact .decline

/-- **Every rule decides alike** as long as it does not fail, in all guides and outside of them. -/
theorem Rule.decide_concurs (both : ctx.guide.isSome = ctx'.guide.isSome) (rule : Rule) :
    (rule.decide ctx site).Concurs (rule.decide ctx' site) := by
  cases rule with
  | guideStep => exact decideGuideStep_concurs both
  | customTag => exact decideCustomTag_concurs
  | image => exact decideImage_concurs
  | anchor => exact decideAnchor_concurs
  | checkbox => exact decideCheckbox_concurs
  | blankParagraph | questBlock | taskParagraph | broken => exact .refl _

theorem Rule.decideAll_concurs (both : ctx.guide.isSome = ctx'.guide.isSome) :
    ∀ rules : List Rule, (decideAll ctx site rules).Concurs (decideAll ctx' site rules)
  | [] => .decline
  | rule :: rest => by
    have first := @decide_concurs ctx ctx' site both rule
    rw [decideAll, decideAll]
    generalize rule.decide ctx site = decision, rule.decide ctx' site = decision' at first
    cases first with
    | decline => exact decideAll_concurs both rest
    | failed fault other => exact .failed fault _
    | failed' other fault => exact .failed' _ fault
    | render scope build build' => exact .render scope build build'
    | number build build' => exact .number build build'

/-! ## Stretches of two walks -/

/-- Two stretches that started with the same count of boxes have the same boxes in the same places,
and end with the same count, unless there was a failure. -/
structure Stable (p q : Pass) (made made' : List Node × Pass) : Prop where
  le : p.fallbacks ≤ made.2.fallbacks
  le' : q.fallbacks ≤ made'.2.fallbacks
  same : p.next = q.next → made.2.fallbacks = p.fallbacks → made'.2.fallbacks = q.fallbacks →
    List.Forall₂ Node.SameBoxes made.1 made'.1 ∧ made.2.next = made'.2.next

section Stretches

variable {p q p' q' p'' q'' : Pass} {n m : Node} {ns ms : List Node}
  {made made' : List Node × Pass}

/-- A failure on one side leaves nothing to show. -/
theorem stable_of_failed (failed : p.fallbacks < made.2.fallbacks)
    (le' : q.fallbacks ≤ made'.2.fallbacks) : Stable p q made made' :=
  ⟨failed.le, le', fun _ clean => absurd clean failed.ne'⟩

theorem stable_of_failed' (le : p.fallbacks ≤ made.2.fallbacks)
    (failed : q.fallbacks < made'.2.fallbacks) : Stable p q made made' :=
  ⟨le, failed.le, fun _ _ clean => absurd clean failed.ne'⟩

theorem stable_nil (p q : Pass) : Stable p q ([], p) ([], q) :=
  ⟨le_refl _, le_refl _, fun same _ _ => ⟨.nil, same⟩⟩

/-- Stretches are joined: where the whole has no failure, neither part has one. -/
theorem Stable.cons (first : Stable p q ([n], p') ([m], q'))
    (rest : Stable p' q' (ns, p'') (ms, q'')) : Stable p q (n :: ns, p'') (m :: ms, q'') := by
  refine ⟨first.le.trans rest.le, first.le'.trans rest.le', fun same clean clean' => ?_⟩
  have middle : p'.fallbacks = p.fallbacks := le_antisymm (clean ▸ rest.le) first.le
  have middle' : q'.fallbacks = q.fallbacks := le_antisymm (clean' ▸ rest.le') first.le'
  obtain ⟨boxes, next⟩ := first.same same middle middle'
  obtain ⟨boxes', after⟩ := rest.same next (clean.trans middle.symm) (clean'.trans middle'.symm)
  exact ⟨List.rel_append boxes boxes', after⟩

/-- Nodes that are no boxes are put around two stretches. -/
theorem Stable.around (inside : Stable p q made made') {content content' : Content}
    (own : content.box? = none) (own' : content'.box? = none) :
    Stable p q ([.mk content made.1], made.2) ([.mk content' made'.1], made'.2) := by
  refine ⟨inside.le, inside.le', fun same clean clean' => ?_⟩
  obtain ⟨boxes, after⟩ := inside.same same clean clean'
  refine ⟨.cons (Node.sameBoxes_mk ?_ boxes) .nil, after⟩
  rw [own, own']

theorem stable_transformText (value : String) (p q : Pass) : Stable p q
    (alone (transformText ctx value p)) (alone (transformText ctx' value q)) := by
  have le : ∀ (ctx : Context) (pass : Pass),
      pass.fallbacks ≤ (transformText ctx value pass).2.fallbacks := by
    intro ctx pass
    cases @transformText_cases ctx value pass <;> simp [*]
  refine ⟨le ctx p, le ctx' q, fun same _ _ => ⟨.cons (fun path => ?_) .nil, ?_⟩⟩
  · rw [Node.boxAt?_transformText, Node.boxAt?_transformText]
  · rw [alone, alone, next_transformText, next_transformText, same]

end Stretches

/-! ## Elements -/

section Elements

variable {look look' : Scope → Pass → List Node × Pass} {tag : Tag} {p : Pass}

/-- A visit after a failure has counted it. -/
theorem lt_fallbacks_again (le : ∀ scope pass, pass.fallbacks ≤ (look scope pass).2.fallbacks)
    {spoilt : Nat} (before : p.fallbacks ≤ spoilt) :
    p.fallbacks < (look .all ⟨p.next, spoilt + 1⟩).2.fallbacks :=
  Nat.lt_of_lt_of_le (Nat.lt_succ_of_le before) (le .all ⟨p.next, spoilt + 1⟩)

/-- The count of failures never falls. -/
theorem le_fallbacks_settle (le : ∀ scope pass, pass.fallbacks ≤ (look scope pass).2.fallbacks)
    (nothing : ∀ pass, look .nothing pass = ([], pass)) (decision : Decision) (p : Pass) :
    p.fallbacks ≤ (decision.settle look tag p).2.fallbacks := by
  cases Decision.settle_cases (nothing p) with
  | shown scope build node decided built becomes =>
    rw [becomes]
    exact le scope p
  | numbered build node decided built becomes => rw [becomes]
  | declined decided becomes =>
    rw [becomes]
    exact le .all p
  | failed scope becomes =>
    rw [becomes]
    exact (lt_fallbacks_again le (le scope p)).le

variable (looks : ∀ scope p q, Stable p q (look scope p) (look' scope q))
  (nothing : ∀ p, look .nothing p = ([], p)) (nothing' : ∀ q, look' .nothing q = ([], q))

include looks nothing nothing'

/-- Two elements that are shown with the same children are no boxes themselves. -/
theorem stable_settle_render {scope : Scope} {build build' : List Node → Except Fault Node}
    (decided : Rule.decideAll ctx site rules = .render scope build)
    (decided' : Rule.decideAll ctx' site rules = .render scope build') (p q : Pass) : Stable p q
      (alone ((Decision.render scope build).settle look tag p))
      (alone ((Decision.render scope build').settle look' tag q)) := by
  have le := fun scope p => (looks scope p q).le
  have le' := fun scope q => (looks scope p q).le'
  cases built : build (look scope p).1 with
  | error fault =>
    refine stable_of_failed ?_ (le_fallbacks_settle le' nothing' _ q)
    rw [Decision.settle_render_error built]
    exact lt_fallbacks_again le (le scope p)
  | ok node =>
  cases built' : build' (look' scope q).1 with
  | error fault =>
    refine stable_of_failed' (le_fallbacks_settle le nothing _ p) ?_
    rw [Decision.settle_render_error built']
    exact lt_fallbacks_again le' (le' scope q)
  | ok node' =>
  have none : scope = .nothing → (look scope p).1 = [] := by
    rintro rfl
    rw [nothing]
  have none' : scope = .nothing → (look' scope q).1 = [] := by
    rintro rfl
    rw [nothing']
  rw [Decision.settle_render_ok built, Decision.settle_render_ok built']
  obtain ⟨content, shows, rfl⟩ := Rule.shows_of_decideAll decided none built
  obtain ⟨content', shows', rfl⟩ := Rule.shows_of_decideAll decided' none' built'
  exact (looks scope p q).around (box?_of_shows shows) (box?_of_shows shows')

/-- Two elements that take numbers are boxes of these numbers. -/
theorem stable_settle_number {build build' : Int → Except Fault Node}
    (decided : Rule.decideAll ctx site rules = .number build)
    (decided' : Rule.decideAll ctx' site rules = .number build') (p q : Pass) : Stable p q
      (alone ((Decision.number build).settle look tag p))
      (alone ((Decision.number build').settle look' tag q)) := by
  have le := fun scope p => (looks scope p q).le
  have le' := fun scope q => (looks scope p q).le'
  cases built : build p.next with
  | error fault =>
    refine stable_of_failed ?_ (le_fallbacks_settle le' nothing' _ q)
    rw [Decision.settle_number_error built]
    exact lt_fallbacks_again le (le_refl _)
  | ok node =>
  cases built' : build' q.next with
  | error fault =>
    refine stable_of_failed' (le_fallbacks_settle le nothing _ p) ?_
    rw [Decision.settle_number_error built']
    exact lt_fallbacks_again le' (le_refl _)
  | ok node' =>
  rw [Decision.settle_number_ok built, Decision.settle_number_ok built']
  obtain ⟨-, box, made, rfl⟩ := Rule.box_of_decideAll decided built
  obtain ⟨-, box', made', rfl⟩ := Rule.box_of_decideAll decided' built'
  refine ⟨le_refl _, le_refl _, fun same _ _ => ⟨.cons (Node.sameBoxes_mk ?_ .nil) .nil, ?_⟩⟩
  · have index : box.index = box'.index := by
      rw [index_of_checkbox made, index_of_checkbox made', same]
    exact congrArg some index
  · exact congrArg (· + 1) same

/-- **Elements keep two walks stable.** -/
theorem stable_settle (both : ctx.guide.isSome = ctx'.guide.isSome) (p q : Pass) : Stable p q
      (alone ((Rule.decideAll ctx site rules).settle look tag p))
      (alone ((Rule.decideAll ctx' site rules).settle look' tag q)) := by
  have le := fun scope p => (looks scope p q).le
  have le' := fun scope q => (looks scope p q).le'
  have concurs := @Rule.decideAll_concurs ctx ctx' site both rules
  generalize decided : Rule.decideAll ctx site rules = decision,
    decided' : Rule.decideAll ctx' site rules = decision' at concurs
  cases concurs with
  | decline => exact (looks .all p q).around rfl rfl
  | failed fault other =>
    refine stable_of_failed ?_ (le_fallbacks_settle le' nothing' _ q)
    exact lt_fallbacks_again le (le_refl _)
  | failed' other fault =>
    refine stable_of_failed' (le_fallbacks_settle le nothing _ p) ?_
    exact lt_fallbacks_again le' (le_refl _)
  | render scope build build' =>
    exact stable_settle_render looks nothing nothing' decided decided' p q
  | number build build' =>
    exact stable_settle_number looks nothing nothing' decided decided' p q

end Elements

/-! ## Trees -/

/-- **Boxes stay where they are.**  If a document is transformed without failures under two contexts
that are both within a guide, or both outside, the same boxes are in the same places, and the counts
at the end are equal. -/
theorem boxAt?_transform (rules : List Rule) (both : ctx.guide.isSome = ctx'.guide.isSome)
    {document : Markup} {start : Int} (clean : (transform rules ctx document start).2.fallbacks = 0)
    (clean' : (transform rules ctx' document start).2.fallbacks = 0) :
    (∀ path, (transform rules ctx document start).1.boxAt? path =
        (transform rules ctx' document start).1.boxAt? path) ∧
      (transform rules ctx document start).2.next =
        (transform rules ctx' document start).2.next := by
  have stable : Stable (Pass.start start) (Pass.start start)
      (alone (transform rules ctx document start)) (alone (transform rules ctx' document start)) :=
    transformNode_induction₂ stable_nil Stable.cons stable_transformText
      (fun site looks => stable_settle looks (fun _ => rfl) (fun _ => rfl) both)
      [] [] document (Pass.start start) (Pass.start start)
  obtain ⟨boxes, after⟩ := stable.same rfl clean clean'
  exact ⟨(List.forall₂_cons.mp boxes).1, after⟩

/-! ### A box within a link -/

/-- A step of a guide in which one origin is trusted. -/
def Context.trusting : Context :=
  { preview with
    whitelist := some ["https://a.org"], guide := some (.number 1), step := some (.number 0) }

/-- Another guide, where no origin is trusted, and nothing reacts. -/
def Context.wary : Context :=
  { preview with guide := some (.number 2), disabled := true }

/-- A link with a box in it. -/
def linkedBox : Markup :=
  .element ⟨"a", [("href", "https://a.org/x")]⟩ [.element ⟨"input", [("type", "checkbox")]⟩ []]

/-- The link is kept in the one guide and lost in the other, and the box stays in its place. -/
theorem boxAt?_transform_linkedBox :
    Context.trusting.guide.isSome = Context.wary.guide.isSome ∧
      (transform Rule.standard .trusting linkedBox 5).2.fallbacks = 0 ∧
      (transform Rule.standard .wary linkedBox 5).2.fallbacks = 0 ∧
      (transform Rule.standard .wary linkedBox 5).1.boxAt? [0] = some 5 := by
  have clean : (transform Rule.standard .trusting linkedBox 5).2.fallbacks = 0 := by rfl
  have clean' : (transform Rule.standard .wary linkedBox 5).2.fallbacks = 0 := by rfl
  have places := (boxAt?_transform Rule.standard rfl clean clean').1 [0]
  exact ⟨rfl, clean, clean', places.symm.trans rfl⟩

end GuideMarkup
