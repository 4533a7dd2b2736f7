import GuideMarkup.Proofs.Occurrence
import Mathlib.Algebra.BigOperators.Ring.List
import Mathlib.Algebra.Ring.Nat

/-!
# Proofs/Recovery — a broken element leaves no trace but the count of failures

    tree, next number  =  those of the walk in which all rules decline on broken elements
    failures           =  the sum of 2 ^ (broken elements around it), over the broken elements

A broken element is visited twice, first in vain and then anew, so whatever fails inside it fails
twice.  `Recovered` compares a stretch of the walk that fails with the same stretch of the walk that
declines; it says nothing of the failures where the second walk has failures of its own, since those
are repeated as well.
-/

namespace GuideMarkup

variable {rules : List Rule} {ctx : Context}

/-! ## Broken elements -/

/-- The element is marked as broken. -/
def Tag.isBroken (tag : Tag) : Bool :=
  tag.role? == some "broken"

/-- The content is a broken element that is shown as it is. -/
def Content.isBroken : Content → Bool
  | .plain (some name) attributes _ => Tag.isBroken ⟨name, attributes⟩
  | _ => false

/-- Of all that rules show nothing is a broken element. -/
theorem isBroken_of_shows {site : Site} {scope : Scope} {content : Content}
    (shows : Shows ctx site scope content) : content.isBroken = false := by
  cases shows with
  | link role target leads marked icon =>
    rw [Context.linkContent]
    split <;> rfl
  | _ => rfl

/-- Texts show no broken elements. -/
theorem isBroken_of_occursInText {content : Content} (inText : OccursInText ctx content) :
    content.isBroken = false := by
  cases inText <;> rfl

/-! ## Failures that a tree tells of -/

namespace Node

mutual

/-- For each broken element of a tree, in document order, how many of the elements around it are
broken; `above` are so around the tree. -/
def brokenDepths (above : Nat) : Node → List Nat
  | .mk content children =>
    if content.isBroken then above :: brokenDepthsAll (above + 1) children
    else brokenDepthsAll above children

/-- The same for the trees of a list. -/
def brokenDepthsAll (above : Nat) : List Node → List Nat
  | [] => []
  | tree :: rest => brokenDepths above tree ++ brokenDepthsAll above rest

end

/-- **The failures that a tree tells of**: a broken element has failed once for itself, and as often
again for each broken element around it. -/
def failures (tree : Node) : Nat :=
  ((tree.brokenDepths 0).map (2 ^ ·)).sum

/-- The failures that the trees of a list tell of. -/
def failuresAll (trees : List Node) : Nat :=
  ((brokenDepthsAll 0 trees).map (2 ^ ·)).sum

/-- One more broken element around a tree is one more around each broken element in it. -/
theorem brokenDepths_succ (above : Nat) :
    ∀ tree : Node, tree.brokenDepths (above + 1) = (tree.brokenDepths above).map (· + 1) :=
  one above
where
  one (above : Nat) :
      ∀ tree : Node, tree.brokenDepths (above + 1) = (tree.brokenDepths above).map (· + 1)
    | .mk content children => by
      rw [brokenDepths, brokenDepths]
      split
      · rw [all (above + 1) children, List.map_cons]
      · exact all above children
  all (above : Nat) : ∀ trees : List Node,
      brokenDepthsAll (above + 1) trees = (brokenDepthsAll above trees).map (· + 1)
    | [] => rfl
    | tree :: rest => by
      rw [brokenDepthsAll, brokenDepthsAll, List.map_append, one above tree, all above rest]

/-- Nothing is broken in trees without broken elements. -/
theorem brokenDepthsAll_of_everywhere (above : Nat) : ∀ {trees : List Node},
    Everywhere (fun content => content.isBroken = false) trees → brokenDepthsAll above trees = [] :=
  all
where
  one : ∀ {tree : Node}, Everywhere (fun content => content.isBroken = false) [tree] →
      brokenDepths above tree = []
    | .mk content children, whole => by
      obtain ⟨own, below⟩ := everywhere_mk.mp whole
      rw [brokenDepths, own]
      exact all below
  all : ∀ {trees : List Node}, Everywhere (fun content => content.isBroken = false) trees →
      brokenDepthsAll above trees = []
    | [], _ => rfl
    | tree :: others, whole => by
      obtain ⟨first, rest⟩ := everywhere_append.mp (List.singleton_append ▸ whole)
      rw [brokenDepthsAll, one first, all rest]
      rfl

theorem failuresAll_nil : failuresAll [] = 0 := rfl

theorem failuresAll_cons (tree : Node) (rest : List Node) :
    failuresAll (tree :: rest) = tree.failures + failuresAll rest := by
  rw [failuresAll, brokenDepthsAll, List.map_append, List.sum_append, failures, failuresAll]

theorem failuresAll_singleton (tree : Node) : failuresAll [tree] = tree.failures := by
  rw [failuresAll_cons, failuresAll_nil, Nat.add_zero]

theorem failures_mk_of_isBroken_eq_false {content : Content} (whole : content.isBroken = false)
    (children : List Node) : (mk content children).failures = failuresAll children := by
  rw [failures, brokenDepths, whole, failuresAll]
  rfl

/-- **What fails inside a broken element fails twice.** -/
theorem failures_mk_of_isBroken {content : Content} (broken : content.isBroken = true)
    (children : List Node) : (mk content children).failures = 1 + 2 * failuresAll children := by
  have doubled : (fun above => 2 ^ above) ∘ (· + 1) = fun above => 2 * 2 ^ above :=
    funext fun above => pow_succ' 2 above
  rw [failures, brokenDepths, if_pos broken, brokenDepths_succ.all, List.map_cons, List.sum_cons,
    List.map_map, doubled, List.sum_map_mul_left, pow_zero, failuresAll]

theorem failures_transformText (value : String) (pass : Pass) :
    (transformText ctx value pass).1.failures = 0 := by
  have whole := (everywhere_transformText value pass).imp
    fun _ => @isBroken_of_occursInText ctx _
  rw [← failuresAll_singleton, failuresAll, brokenDepthsAll_of_everywhere 0 whole]
  rfl

end Node

/-! ## Declining on broken elements -/

namespace Decider

/-- The decider, changed so that it declines on broken elements. -/
def sparing (decider : Decider) : Decider :=
  fun site => if site.tag.isBroken then .decline else decider site

theorem sparing_of_isBroken {site : Site} (broken : site.tag.isBroken = true) (decider : Decider) :
    decider.sparing site = .decline :=
  if_pos broken

theorem sparing_of_whole {site : Site} (whole : site.tag.isBroken = false) (decider : Decider) :
    decider.sparing site = decider site :=
  if_neg (by rw [whole]; nofun)

/-- If all deciders decline on broken elements, so does the first that does not decline. -/
theorem firstOf_map_sparing : ∀ deciders : List Decider,
    firstOf (deciders.map sparing) = (firstOf deciders).sparing
  | [] => funext fun site => (ite_self _).symm
  | decider :: rest => by
    funext site
    rw [List.map_cons, firstOf, firstOf_map_sparing rest]
    cases broken : site.tag.isBroken with
    | true => simp only [sparing_of_isBroken broken]
    | false =>
      simp only [sparing_of_whole broken]
      rfl

end Decider

/-- **The walk in which every rule declines on broken elements**, and is otherwise as it is. -/
def transformSparing (rules : List Rule) (ctx : Context) (document : Markup) (next : Int) :
    Node × Pass :=
  (Decider.firstOf ((rules.map (Rule.decider ctx)).map Decider.sparing)).image ctx [] [] document
    (Pass.start next)

section Broken

variable {site : Site}

/-- The rule that always fails has all children of a broken element visited before. -/
theorem Rule.decideAll_broken_of_isBroken (broken : site.tag.isBroken = true) :
    decideAll ctx site (.broken :: rules) = .render .all fun _ => .error .broken := by
  have decided : decideBroken site = .render .all fun _ => .error .broken := if_pos broken
  rw [decideAll, decide, decided]

/-- The rule that always fails leaves all other elements to the other rules. -/
theorem Rule.decideAll_broken_of_whole (whole : site.tag.isBroken = false) :
    decideAll ctx site (.broken :: rules) = decideAll ctx site rules := by
  have decided : decideBroken site = .decline := if_neg (ne_true_of_eq_false whole)
  rw [decideAll, decide, decided]

end Broken

/-! ## The two walks -/

/-- What a stretch of the walk that fails, `made` from `p`, has in common with the same stretch of
the walk that declines, `made'` from `q`. -/
structure Recovered (p q : Pass) (made made' : List Node × Pass) : Prop where
  nodes : made.1 = made'.1
  next : made.2.next = made'.2.next
  le : q.fallbacks ≤ made'.2.fallbacks
  /-- Where nothing else fails, the trees tell how often the first walk has failed. -/
  count : made'.2.fallbacks = q.fallbacks →
    made.2.fallbacks = p.fallbacks + Node.failuresAll made'.1

namespace Recovered

variable {p q p' q' : Pass}

theorem nil (same : p.next = q.next) : Recovered p q ([], p) ([], q) :=
  ⟨rfl, same, le_refl _, fun _ => rfl⟩

theorem cons {node node' : Node} {nodes nodes' : List Node} {p'' q'' : Pass}
    (first : Recovered p q ([node], p') ([node'], q'))
    (rest : Recovered p' q' (nodes, p'') (nodes', q'')) :
    Recovered p q (node :: nodes, p'') (node' :: nodes', q'') where
  nodes := congrArg₂ (· ++ ·) first.nodes rest.nodes
  next := rest.next
  le := le_trans first.le rest.le
  count clean := by
    have clean : q''.fallbacks = q.fallbacks := clean
    have le' : q'.fallbacks ≤ q''.fallbacks := rest.le
    have middle : q'.fallbacks = q.fallbacks := le_antisymm (clean ▸ le') first.le
    have count : p'.fallbacks = p.fallbacks + Node.failuresAll [node'] := first.count middle
    have count' : p''.fallbacks = p'.fallbacks + Node.failuresAll nodes' :=
      rest.count (clean.trans middle.symm)
    rw [count', count, Node.failuresAll_singleton, Node.failuresAll_cons, Nat.add_assoc]

/-- Where the second walk has failed, too, nothing is said about the failures. -/
theorem of_lt {made made' : List Node × Pass} (recovered : Recovered p' q' made made')
    (lt : q.fallbacks < q'.fallbacks) : Recovered p q made made' where
  nodes := recovered.nodes
  next := recovered.next
  le := le_trans (le_of_lt lt) recovered.le
  count clean := absurd (clean ▸ recovered.le) (not_le_of_gt lt)

/-- A node that is no broken element has recovered as the nodes in it have. -/
theorem around {content : Content} {made made' : List Node × Pass}
    (inside : Recovered p q made made') (whole : content.isBroken = false) :
    Recovered p q ([.mk content made.1], made.2) ([.mk content made'.1], made'.2) where
  nodes := by rw [inside.nodes]
  next := inside.next
  le := inside.le
  count clean := by
    rw [Node.failuresAll_singleton, Node.failures_mk_of_isBroken_eq_false whole]
    exact inside.count clean

/-- **A broken element has recovered**: what was visited in vain has failed as often as what was
visited anew. -/
theorem again {tag : Tag} {vain anew made' : List Node × Pass} (broken : tag.isBroken = true)
    (first : Recovered p q vain made')
    (second : Recovered ⟨p.next, vain.2.fallbacks + 1⟩ q anew made') :
    Recovered p q (alone (enclose tag anew)) (alone (enclose tag made')) where
  nodes := by rw [alone, alone, enclose, enclose, second.nodes]
  next := second.next
  le := second.le
  count clean := by
    have shown : Content.isBroken (.plain (some tag.name) tag.attributes none) = true := broken
    have twice : (Node.element tag made'.1).failures = 1 + 2 * Node.failuresAll made'.1 :=
      Node.failures_mk_of_isBroken shown made'.1
    have count := first.count clean
    have count' : anew.2.fallbacks = vain.2.fallbacks + 1 + Node.failuresAll made'.1 :=
      second.count clean
    rw [alone, alone, enclose, enclose, Node.failuresAll_singleton, twice, count', count]
    omega

end Recovered

theorem recovered_transformText (value : String) {p q : Pass} (same : p.next = q.next) :
    Recovered p q (alone (transformText ctx value p)) (alone (transformText ctx value q)) := by
  cases made : textNode ctx value with
  | ok node =>
    have becomes : ∀ pass, transformText ctx value pass = (node, pass) := fun pass => by
      rw [transformText, made]
    have failures := @Node.failures_transformText ctx value q
    rw [becomes, ← Node.failuresAll_singleton] at failures
    rw [becomes, becomes]
    exact ⟨rfl, same, le_refl _, fun _ => by rw [alone, alone, failures]; rfl⟩
  | error fault =>
    have becomes : ∀ pass, transformText ctx value pass =
        (Node.text value, ⟨pass.next, pass.fallbacks + 1⟩) := fun pass => by
      rw [transformText, made]
    rw [becomes, becomes]
    refine ⟨rfl, same, Nat.le_succ _, fun clean => ?_⟩
    exact absurd clean (Nat.succ_ne_self _)

section Elements

variable {site : Site} {tag : Tag} {p q : Pass} {look look' : Scope → Pass → List Node × Pass}
  (looks : ∀ scope p q, p.next = q.next → Recovered p q (look scope p) (look' scope q))

include looks

theorem recovered_enclose (whole : tag.isBroken = false) (same : p.next = q.next) :
    Recovered p q (alone (enclose tag (look .all p))) (alone (enclose tag (look' .all q))) :=
  (looks .all p q same).around whole

/-- An element on which a rule has failed in both walks is visited anew in both. -/
theorem recovered_enclose_anew (whole : tag.isBroken = false) (same : p.next = q.next)
    (failed : Nat) {failed' : Nat} (le : q.fallbacks ≤ failed') : Recovered p q
      (alone (enclose tag (look .all ⟨p.next, failed + 1⟩)))
      (alone (enclose tag (look' .all ⟨q.next, failed' + 1⟩))) := by
  have enclosed := @recovered_enclose tag ⟨p.next, failed + 1⟩ ⟨q.next, failed' + 1⟩ _ _ looks
  exact (enclosed whole same).of_lt (Nat.lt_succ_of_le le)

/-- An element that is not broken has recovered, whatever the rules decide about it. -/
theorem recovered_settle (nothing : ∀ pass, look .nothing pass = ([], pass))
    (whole : site.tag.isBroken = false) (same : p.next = q.next) :
    Recovered p q (alone ((Rule.decideAll ctx site rules).settle look site.tag p))
      (alone ((Rule.decideAll ctx site rules).settle look' site.tag q)) := by
  cases decided : Rule.decideAll ctx site rules with
  | decline => exact recovered_enclose looks whole same
  | fail fault => exact recovered_enclose_anew looks whole same _ (le_refl _)
  | render scope build =>
    have inside := looks scope p q same
    cases built : build (look scope p).1 with
    | ok node =>
      have built' : build (look' scope q).1 = .ok node := by rw [← inside.nodes, built]
      have none : scope = .nothing → (look scope p).1 = [] := by
        rintro rfl
        rw [nothing]
      obtain ⟨content, shows, rfl⟩ := Rule.shows_of_decideAll decided none built
      rw [Decision.settle_render_ok built, Decision.settle_render_ok built']
      have around := inside.around (isBroken_of_shows shows)
      rwa [← inside.nodes] at around
    | error fault =>
      have built' : build (look' scope q).1 = .error fault := by rw [← inside.nodes, built]
      rw [Decision.settle_render_error built, Decision.settle_render_error built']
      exact recovered_enclose_anew looks whole same _ inside.le
  | number build =>
    cases built : build p.next with
    | ok node =>
      obtain ⟨-, box, -, rfl⟩ := Rule.box_of_decideAll decided built
      rw [Decision.settle_number_ok built, Decision.settle_number_ok (same ▸ built)]
      exact ⟨rfl, congrArg (· + 1) same, le_refl _, fun _ => rfl⟩
    | error fault =>
      rw [Decision.settle_number_error built, Decision.settle_number_error (same ▸ built)]
      exact recovered_enclose_anew looks whole same _ (le_refl _)

/-- A broken element has recovered where the one rule fails on it and the others decline. -/
theorem recovered_settle_broken (broken : tag.isBroken = true) (same : p.next = q.next) :
    Recovered p q
      (alone (Decision.settle look tag p (.render .all fun _ => .error .broken)))
      (alone (Decision.settle look' tag q .decline)) := by
  rw [Decision.settle_render_error rfl, Decision.settle_decline]
  exact (looks .all p q same).again broken (looks .all _ q same)

end Elements

/-- **The walk with failures recovers** wherever the two walks are at the same number. -/
theorem recovered_image (ancestors : List Tag) (following : List Markup) (node : Markup)
    {p q : Pass} (same : p.next = q.next) : Recovered p q
      (alone ((Decider.ofRules ctx (.broken :: rules)).image ctx ancestors following node p))
      (alone ((Decider.ofRules ctx rules).sparing.image ctx ancestors following node q)) := by
  refine Decider.image_induction₂ (P := fun p q made made' => p.next = q.next →
      Recovered p q made made') (fun _ _ same => .nil same)
    (fun first rest same => (first same).cons (rest (first same).next))
    (fun value _ _ same => recovered_transformText value same)
    (fun site looks p q same => ?_) ancestors following node p q same
  rw [Decider.ofRules_apply]
  cases broken : site.tag.isBroken with
  | true =>
    rw [Rule.decideAll_broken_of_isBroken broken, Decider.sparing_of_isBroken broken]
    exact recovered_settle_broken looks broken same
  | false =>
    rw [Rule.decideAll_broken_of_whole broken, Decider.sparing_of_whole broken,
      Decider.ofRules_apply]
    exact recovered_settle looks (fun _ => rfl) broken same

/-- **A rule that fails leaves no trace but the count of failures.**  If a rule fails on every
broken element after it has visited all its children, the tree and the number at the end are those
of the walk in which every rule declines on broken elements; and if nothing fails in that walk, the
tree tells how often the rule has failed. -/
theorem transform_broken (rules : List Rule) (ctx : Context) (document : Markup) (start : Int) :
    (transform (.broken :: rules) ctx document start).1 =
        (transformSparing rules ctx document start).1 ∧
      (transform (.broken :: rules) ctx document start).2.next =
        (transformSparing rules ctx document start).2.next ∧
      ((transformSparing rules ctx document start).2.fallbacks = 0 →
        (transform (.broken :: rules) ctx document start).2.fallbacks =
          (transform (.broken :: rules) ctx document start).1.failures) := by
  have recovered := @recovered_image rules ctx [] [] document (Pass.start start) _ rfl
  rw [Decider.image_ofRules, Decider.ofRules, ← Decider.firstOf_map_sparing] at recovered
  have tree := List.head_eq_of_cons_eq recovered.nodes
  refine ⟨tree, recovered.next, fun clean => ?_⟩
  have count := recovered.count clean
  rw [← recovered.nodes] at count
  exact count.trans (by rw [alone, Node.failuresAll_singleton]; exact Nat.zero_add _)

/-! ### A broken element in another -/

/-- A broken element with a box and another broken element, in which there is a second box. -/
def brokenTwice : Markup :=
  let box : Markup := .element ⟨"input", [("type", "checkbox")]⟩ []
  .element ⟨"div", [("data-type", "broken")]⟩
    [box, .element ⟨"p", [("data-type", "broken")]⟩ [box]]

/-- The outer element fails once and the inner one twice, and there are two boxes. -/
theorem transform_broken_brokenTwice :
    (transformSparing Rule.standard .preview brokenTwice 0).2.fallbacks = 0 ∧
      (transform (.broken :: Rule.standard) .preview brokenTwice 0).2.next = 2 ∧
      (transform (.broken :: Rule.standard) .preview brokenTwice 0).2.fallbacks = 3 := by
  have clean : (transformSparing Rule.standard .preview brokenTwice 0).2.fallbacks = 0 := by rfl
  obtain ⟨tree, next, count⟩ := transform_broken Rule.standard .preview brokenTwice 0
  have failures := count clean
  rw [tree] at failures
  exact ⟨clean, next.trans rfl, failures.trans rfl⟩

end GuideMarkup
