import GuideMarkup.Proofs.Occurrence
import Mathlib.Data.List.Forall2

/-!
# Proofs/Lockstep — two walks that fail, show and number together

    rules, ctx    ──  decline   fail   show the same children   take a number
    rules', ctx'  ──  decline   fail   show the same children   take a number

Two walks over one document are in step if at every element their rules decide alike and build nodes
that are related, or both fail to (`Decision.InStep`).  Then the trees are related, and the counts
are equal at every place (`transformNode_inStep`).  Most relations respect most contents
(`Node.Respects`), and then only the decisions about the others need a look.
-/

namespace GuideMarkup

variable {rules rules' : List Rule} {ctx ctx' : Context} {R : Node → Node → Prop}

/-! ## Results in step -/

/-- Two results are in step: both are faults, or both are there and related. -/
inductive Matched {α β : Type} (R : α → β → Prop) : Except Fault α → Except Fault β → Prop
  | ok {a : α} {b : β} (related : R a b) : Matched R (.ok a) (.ok b)
  | error (fault fault' : Fault) : Matched R (.error fault) (.error fault')

namespace Matched

variable {α β γ δ : Type} {S : α → β → Prop} {T : γ → δ → Prop}

/-- Chains of look-ups stay in step. -/
theorem bind {x : Except Fault α} {y : Except Fault β} {f : α → Except Fault γ}
    {g : β → Except Fault δ} (first : Matched S x y)
    (next : ∀ a b, S a b → Matched T (f a) (g b)) : Matched T (x >>= f) (y >>= g) := by
  cases first with
  | ok related => exact next _ _ related
  | error fault fault' => exact .error fault fault'

/-- Two chains with one first step stay in step. -/
theorem bind_self {x : Except Fault α} {f : α → Except Fault γ} {g : α → Except Fault δ}
    (next : ∀ a, Matched T (f a) (g a)) : Matched T (x >>= f) (x >>= g) := by
  cases x with
  | ok a => exact next a
  | error fault => exact .error fault fault

end Matched

/-! ## Decisions in step -/

/-- Two decisions are in step: they are alike, and what they build from related nodes is in step. -/
inductive Decision.InStep (R : Node → Node → Prop) : Decision → Decision → Prop
  | decline : InStep R .decline .decline
  | fail (fault fault' : Fault) : InStep R (.fail fault) (.fail fault')
  | render (scope : Scope) {build build' : List Node → Except Fault Node}
      (builds : ∀ nodes nodes', List.Forall₂ R nodes nodes' →
        Matched R (build nodes) (build' nodes')) :
      InStep R (.render scope build) (.render scope build')
  | number {build build' : Int → Except Fault Node}
      (builds : ∀ index, Matched R (build index) (build' index)) :
      InStep R (.number build) (.number build')

/-- Rules whose decisions are related one by one make related decisions together, if related
decisions decline together. -/
theorem Rule.decideAll_related {S : Decision → Decision → Prop} {site : Site}
    (declines : S .decline .decline)
    (together : ∀ {decision decision'}, S decision decision' →
      (decision = .decline ↔ decision' = .decline))
    (related : ∀ rule : Rule, S (rule.decide ctx site) (rule.decide ctx' site)) :
    ∀ rules : List Rule, S (decideAll ctx site rules) (decideAll ctx' site rules)
  | [] => declines
  | rule :: rest => by
    have first := related rule
    have both := together first
    rw [decideAll, decideAll]
    split
    · rename_i declined
      rw [both.mp declined]
      exact decideAll_related declines together related rest
    · rename_i taken
      split
      · rename_i declined'
        exact absurd (both.mpr declined') taken
      · exact first

theorem Decision.InStep.decline_iff {decision decision' : Decision}
    (inStep : decision.InStep R decision') : decision = .decline ↔ decision' = .decline := by
  cases inStep <;> simp

/-- Rules that decide in step one by one decide in step together. -/
theorem Rule.decideAll_inStep {site : Site}
    (inStep : ∀ rule : Rule, (rule.decide ctx site).InStep R (rule.decide ctx' site)) :
    ∀ rules : List Rule, (decideAll ctx site rules).InStep R (decideAll ctx' site rules) :=
  decideAll_related .decline Decision.InStep.decline_iff inStep

/-- Decisions in step are settled in step: with related nodes, and with the same counts. -/
theorem Decision.InStep.settle {decision decision' : Decision}
    (inStep : decision.InStep R decision') {look look' : Scope → Pass → List Node × Pass}
    (looks : ∀ scope pass, List.Forall₂ R (look scope pass).1 (look' scope pass).1 ∧
      (look scope pass).2 = (look' scope pass).2) (tag : Tag)
    (elements : ∀ nodes nodes', List.Forall₂ R nodes nodes' →
      R (Node.element tag nodes) (Node.element tag nodes')) (pass : Pass) :
    R (decision.settle look tag pass).1 (decision'.settle look' tag pass).1 ∧
      (decision.settle look tag pass).2 = (decision'.settle look' tag pass).2 := by
  have enclosed : ∀ before : Pass,
      R (enclose tag (look .all before)).1 (enclose tag (look' .all before)).1 ∧
        (enclose tag (look .all before)).2 = (enclose tag (look' .all before)).2 :=
    fun before => ⟨elements _ _ (looks .all before).1, (looks .all before).2⟩
  cases inStep with
  | decline => exact enclosed pass
  | fail fault fault' => exact enclosed ⟨pass.next, pass.fallbacks + 1⟩
  | @render scope build build' builds =>
    obtain ⟨related, same⟩ := looks scope pass
    have built := builds _ _ related
    generalize result : build (look scope pass).1 = made,
      result' : build' (look' scope pass).1 = made' at built
    cases built with
    | ok related => rw [settle_render_ok result, settle_render_ok result']; exact ⟨related, same⟩
    | error fault fault' =>
      rw [settle_render_error result, settle_render_error result', same]
      exact enclosed _
  | @number build build' builds =>
    have built := builds pass.next
    generalize result : build pass.next = made, result' : build' pass.next = made' at built
    cases built with
    | ok related => rw [settle_number_ok result, settle_number_ok result']; exact ⟨related, rfl⟩
    | error fault fault' =>
      rw [settle_number_error result, settle_number_error result']
      exact enclosed _

/-! ## Relations that respect contents -/

/-- The relation respects contents of a kind: put over related nodes, they make related nodes. -/
def Node.Respects (R : Node → Node → Prop) (P : Content → Prop) : Prop :=
  ∀ content trees trees', P content → List.Forall₂ R trees trees' →
    R (.mk content trees) (.mk content trees')

namespace Node.Respects

variable {P : Content → Prop}

mutual

/-- Trees of such contents are related to themselves. -/
theorem self (respects : Respects R P) : ∀ {tree : Node}, Everywhere P [tree] → R tree tree
  | .mk content _, all => by
    obtain ⟨own, below⟩ := everywhere_mk.mp all
    exact respects content _ _ own (forall₂_self respects below)

theorem forall₂_self (respects : Respects R P) :
    ∀ {trees : List Node}, Everywhere P trees → List.Forall₂ R trees trees
  | [], _ => .nil
  | tree :: rest, all => by
    have all : Everywhere P ([tree] ++ rest) := all
    obtain ⟨first, others⟩ := everywhere_append.mp all
    exact .cons (self respects first) (forall₂_self respects others)

end

variable (respects : Respects R P)

include respects

/-- A content that is built over the children in scope is built in step with itself. -/
theorem inStep_render {scope : Scope} {build : List Node → Except Fault Node}
    {made : Except Fault Content}
    (built : ∀ nodes, build nodes = made.map fun content => .mk content (scope.over nodes))
    (own : ∀ content, made = .ok content → P content) :
    (Decision.render scope build).InStep R (.render scope build) := by
  refine .render scope fun nodes nodes' below => ?_
  rw [built, built]
  cases made with
  | error fault => exact .error fault fault
  | ok content =>
    refine .ok (respects content _ _ (own content rfl) ?_)
    cases scope with
    | nothing => exact .nil
    | first | all => exact below

/-- A text that becomes the same in two walks is in step, if texts have such contents only. -/
theorem transformText {value : String} {pass : Pass}
    (inText : ∀ content, OccursInText ctx content → P content)
    (same : transformText ctx' value pass = transformText ctx value pass) :
    R (transformText ctx value pass).1 (transformText ctx' value pass).1 ∧
      (transformText ctx value pass).2 = (transformText ctx' value pass).2 := by
  rw [same]
  exact ⟨respects.self ((everywhere_transformText value pass).imp inText), rfl⟩

end Node.Respects

/-! ## Walks in step -/

/-- **Two walks that decide in step make related trees**, and their counts are equal throughout. -/
theorem transformNode_inStep
    (texts : ∀ value pass, R (transformText ctx value pass).1 (transformText ctx' value pass).1 ∧
      (transformText ctx value pass).2 = (transformText ctx' value pass).2)
    (elements : ∀ tag nodes nodes', List.Forall₂ R nodes nodes' →
      R (Node.element tag nodes) (Node.element tag nodes'))
    (decides : ∀ site,
      (Rule.decideAll ctx site rules).InStep R (Rule.decideAll ctx' site rules'))
    (ancestors : List Tag) (following : List Markup) (node : Markup) (pass : Pass) :
    R (transformNode rules ctx ancestors following node pass).1
        (transformNode rules' ctx' ancestors following node pass).1 ∧
      (transformNode rules ctx ancestors following node pass).2 =
        (transformNode rules' ctx' ancestors following node pass).2 := by
  have walks := @transformNode_induction₂ rules rules' ctx ctx'
    (fun p q made made' => p = q → List.Forall₂ R made.1 made'.1 ∧ made.2 = made'.2)
    (fun p q same => ⟨.nil, same⟩)
    (fun first rest same => by
      obtain ⟨related, middle⟩ := first same
      obtain ⟨related', after⟩ := rest middle
      exact ⟨List.rel_append related related', after⟩)
    (fun value p q same => by
      obtain ⟨related, after⟩ := texts value p
      exact same ▸ ⟨.cons related .nil, after⟩)
    (fun site looks p q same => by
      obtain ⟨related, after⟩ := (decides site).settle (fun scope pass => looks scope pass pass rfl)
        site.tag (elements site.tag) p
      exact same ▸ ⟨.cons related .nil, after⟩)
  obtain ⟨related, after⟩ := walks ancestors following node pass pass rfl
  exact ⟨(List.forall₂_cons.mp related).1, after⟩

end GuideMarkup
