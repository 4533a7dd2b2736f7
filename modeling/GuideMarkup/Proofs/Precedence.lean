import GuideMarkup.Proofs.Visit

/-!
# Proofs/Precedence — which order of the rules matters

    blank paragraphs  ·  rules by role  ·  rules by name
                         in any order      in any order

A rule by role takes elements of one role only, and a rule by name elements of one name, so of two
such rules at least one declines at once, whatever the other comes to (`Rule.Excludes`).  The first
that does not decline is then the only one, and it does not matter when its turn comes
(`Rule.decideAll_perm`).  The three groups themselves overlap: a paragraph or an image may have a
role.
-/

namespace GuideMarkup

variable {ctx : Context} {site : Site}

namespace Rule

/-! ## Rules that exclude each other -/

/-- The role of the elements that a rule takes, if it goes by roles. -/
def role? : Rule → Option String
  | .guideStep => some "guide-step"
  | .customTag => some "custom-tag"
  | .questBlock => some "quest-block"
  | .broken => some "broken"
  | _ => none

/-- The name of the elements that a rule takes, if it goes by names. -/
def name? : Rule → Option String
  | .blankParagraph | .taskParagraph => some "p"
  | .image => some "img"
  | .anchor => some "a"
  | .checkbox => some "input"
  | _ => none

theorem decide_of_role?_ne {rule : Rule} {role : String} (own : rule.role? = some role)
    (other : site.tag.role? ≠ some role) : rule.decide ctx site = .decline := by
  cases rule with
  | guideStep | customTag | questBlock =>
    obtain rfl := Option.some.inj own
    exact if_pos (bne_iff_ne.mpr other)
  | broken =>
    obtain rfl := Option.some.inj own
    exact if_neg (mt beq_iff_eq.mp other)
  | _ => cases own

theorem decide_of_name?_ne {rule : Rule} {name : String} (own : rule.name? = some name)
    (other : site.tag.name ≠ name) : rule.decide ctx site = .decline := by
  cases rule with
  | image | anchor =>
    obtain rfl := Option.some.inj own
    exact if_pos (bne_iff_ne.mpr other)
  | blankParagraph | taskParagraph | checkbox =>
    obtain rfl := Option.some.inj own
    refine if_neg fun taken => other ?_
    exact beq_iff_eq.mp (Bool.and_eq_true_iff.mp taken).1
  | _ => cases own

/-- The rules go by roles, or both by names, but not by the same one. -/
def Apart (rule rule' : Rule) : Prop :=
  (rule.role?.isSome ∧ rule'.role?.isSome ∧ rule.role? ≠ rule'.role?) ∨
    rule.name?.isSome ∧ rule'.name?.isSome ∧ rule.name? ≠ rule'.name?

instance : DecidableRel Apart :=
  fun _ _ => inferInstanceAs (Decidable (_ ∨ _))

/-- **The rules exclude each other**: at every element one of them declines. -/
def Excludes (rule rule' : Rule) : Prop :=
  ∀ ctx site, rule.decide ctx site = .decline ∨ rule'.decide ctx site = .decline

theorem Excludes.symm {rule rule' : Rule} (excludes : rule.Excludes rule') :
    rule'.Excludes rule :=
  fun ctx site => (excludes ctx site).symm

theorem Apart.excludes {rule rule' : Rule} (apart : rule.Apart rule') : rule.Excludes rule' := by
  intro ctx site
  obtain ⟨known, known', differ⟩ | ⟨known, known', differ⟩ := apart
  · obtain ⟨role, own⟩ := Option.isSome_iff_exists.mp known
    obtain ⟨role', own'⟩ := Option.isSome_iff_exists.mp known'
    rw [own, own'] at differ
    by_cases same : site.tag.role? = some role
    · exact .inr (decide_of_role?_ne own' (same ▸ differ))
    · exact .inl (decide_of_role?_ne own same)
  · obtain ⟨name, own⟩ := Option.isSome_iff_exists.mp known
    obtain ⟨name', own'⟩ := Option.isSome_iff_exists.mp known'
    rw [own, own'] at differ
    by_cases same : site.tag.name = name
    · exact .inr (decide_of_name?_ne own' (same ▸ ne_of_apply_ne some differ))
    · exact .inl (decide_of_name?_ne own same)

/-! ## The first that does not decline -/

theorem decideAll_cons_of_decline {rule : Rule} (declines : rule.decide ctx site = .decline)
    (rest : List Rule) : decideAll ctx site (rule :: rest) = decideAll ctx site rest := by
  rw [decideAll, declines]

theorem decideAll_append (rules rules' : List Rule) :
    decideAll ctx site (rules ++ rules') =
      match decideAll ctx site rules with
      | .decline => decideAll ctx site rules'
      | taken => taken := by
  induction rules with
  | nil => rfl
  | cons rule rest ih =>
    rw [List.cons_append, decideAll, decideAll, ih]
    cases rule.decide ctx site <;> rfl

/-- **The order of rules that exclude each other does not matter.** -/
theorem decideAll_perm {rules rules' : List Rule} (perm : rules.Perm rules')
    (apart : rules.Pairwise Excludes) :
    decideAll ctx site rules = decideAll ctx site rules' := by
  induction perm with
  | nil => rfl
  | cons rule _ ih => rw [decideAll, decideAll, ih (List.pairwise_cons.mp apart).2]
  | swap rule rule' rest =>
    have excludes := (List.pairwise_cons.mp apart).1 rule List.mem_cons_self
    obtain declines | declines := excludes ctx site
    · rw [decideAll_cons_of_decline declines, decideAll, decideAll,
        decideAll_cons_of_decline declines]
    · rw [decideAll_cons_of_decline declines, decideAll, decideAll_cons_of_decline declines,
        decideAll]
  | trans perm _ ih ih' =>
    rw [ih apart, ih' (perm.pairwise apart fun excludes => excludes.symm)]

end Rule

/-! ## Walks -/

/-- Walks by rules that decide alike everywhere are the same. -/
theorem transform_congr {rules rules' : List Rule}
    (alike : ∀ site, Rule.decideAll ctx site rules = Rule.decideAll ctx site rules')
    (document : Markup) (start : Int) :
    transform rules ctx document start = transform rules' ctx document start := by
  have same : Decider.ofRules ctx rules = Decider.ofRules ctx rules' := by
    funext site
    rw [Decider.ofRules_apply, Decider.ofRules_apply, alike]
  rw [transform, transform, ← Decider.image_ofRules, ← Decider.image_ofRules, same]

/-- **Only the order of the groups matters.**  With the rules by role in any order, and then those
by name in any order, a document has the same tree and the same counts. -/
theorem transform_of_perm {byRole byName : List Rule}
    (roles : byRole.Perm [.guideStep, .customTag, .questBlock])
    (names : byName.Perm [.image, .anchor, .taskParagraph, .checkbox])
    (ctx : Context) (document : Markup) (start : Int) :
    transform (.blankParagraph :: (byRole ++ byName)) ctx document start =
      transform Rule.standard ctx document start := by
  have apartRoles : [Rule.guideStep, .customTag, .questBlock].Pairwise Rule.Apart := by decide
  have apartNames : [Rule.image, .anchor, .taskParagraph, .checkbox].Pairwise Rule.Apart := by
    decide
  refine transform_congr (fun site => ?_) document start
  have first := @Rule.decideAll_perm ctx site _ _ roles.symm (apartRoles.imp Rule.Apart.excludes)
  have second := @Rule.decideAll_perm ctx site _ _ names.symm (apartNames.imp Rule.Apart.excludes)
  have groups : Rule.standard = .blankParagraph :: ([.guideStep, .customTag, .questBlock] ++
    [.image, .anchor, .taskParagraph, .checkbox]) := rfl
  rw [groups, Rule.decideAll, Rule.decideAll, Rule.decideAll_append, Rule.decideAll_append, first,
    second]

/-! ### Both groups turned round -/

/-- The rules by role and those by name, the last ones first. -/
def Rule.turnedRound : List Rule :=
  .blankParagraph :: ([.questBlock, .customTag, .guideStep] ++
    [.checkbox, .taskParagraph, .anchor, .image])

/-- A blank paragraph, a picture with the role of an item, and a box with the role of a link that
leads nowhere. -/
def overlappingMarks : Markup :=
  .element ⟨"div", []⟩ [.element ⟨"p", [("data-type", "quest-block")]⟩ [],
    .element ⟨"img", [("data-type", "custom-tag"), ("type", "item")]⟩ [],
    .element ⟨"input", [("data-type", "guide-step"), ("type", "checkbox")]⟩ []]

/-- Elements for which rules of several groups compete are shown alike. -/
theorem transform_of_perm_overlappingMarks :
    [Rule.questBlock, .customTag, .guideStep].Perm [.guideStep, .customTag, .questBlock] ∧
      [Rule.checkbox, .taskParagraph, .anchor, .image].Perm
        [.image, .anchor, .taskParagraph, .checkbox] ∧
      transform Rule.turnedRound .preview overlappingMarks 0 =
        transform Rule.standard .preview overlappingMarks 0 := by
  have roles : [Rule.questBlock, .customTag, .guideStep].Perm
      [.guideStep, .customTag, .questBlock] := by decide
  have names : [Rule.checkbox, .taskParagraph, .anchor, .image].Perm
      [.image, .anchor, .taskParagraph, .checkbox] := by decide
  exact ⟨roles, names, transform_of_perm roles names .preview overlappingMarks 0⟩

end GuideMarkup
