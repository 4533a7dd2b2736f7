import GuideMarkup.Proofs.Journey

/-!
# Proofs/Footprint — what toggling a box leaves as it was

    guide on record   ↦  one box of one step, in the progress and in every tree
    guide not named   ↦  that box, and the guide itself, which is on record from then on

The table of checked boxes reaches the boxes of a tree and nothing else (`transform_recheck`), so a
toggle that changes no more than this table changes no more than one box of any tree.  It does
change more if it is the first to name its guide, and then not even a second toggle takes that back.
There is no other exception.
-/

namespace GuideMarkup

variable {ctx : Context} {guide step index : Int}

/-! ## Trees with changed boxes -/

/-- A content with the box changed that it is. -/
def Content.mapBox (change : Checkbox → Checkbox) : Content → Content
  | .checkbox box => .checkbox (change box)
  | content => content

theorem Content.mapBox_of_box? {change : Checkbox → Checkbox} {content : Content}
    (none : content.box? = none) : content.mapBox change = content := by
  cases content with
  | checkbox box => exact absurd none nofun
  | _ => rfl

namespace Node

mutual

/-- **The tree with its boxes changed**, and nothing else. -/
def mapBoxes (change : Checkbox → Checkbox) : Node → Node
  | .mk content children => .mk (content.mapBox change) (mapBoxesAll change children)

/-- The trees of a list with their boxes changed. -/
def mapBoxesAll (change : Checkbox → Checkbox) : List Node → List Node
  | [] => []
  | tree :: rest => mapBoxes change tree :: mapBoxesAll change rest

end

variable {change : Checkbox → Checkbox}

/-- The second tree is the first one with its boxes changed. -/
def Changed (change : Checkbox → Checkbox) (tree tree' : Node) : Prop :=
  tree.mapBoxes change = tree'

theorem mapBoxesAll_of_forall₂ {trees trees' : List Node}
    (changed : List.Forall₂ (Changed change) trees trees') :
    mapBoxesAll change trees = trees' := by
  induction changed with
  | nil => rfl
  | cons first _ ih => rw [mapBoxesAll, ih, show _ = _ from first]

/-- Around changed trees a content that is no box stays as it is. -/
theorem respects_changed : Respects (Changed change) (·.box? = none) := by
  intro content trees trees' none below
  rw [Changed, mapBoxes, Content.mapBox_of_box? none, mapBoxesAll_of_forall₂ below]

end Node

open Node (Changed)

/-! ## Contexts with other boxes checked -/

/-- A context with other boxes checked. -/
def Context.recheck (ctx : Context) (boxes : Option (List Int)) : Context :=
  { ctx with checked := boxes }

section Recheck

variable {boxes : Option (List Int)} {change : Checkbox → Checkbox}
  (changes : ∀ index, (ctx.recheck boxes).checkbox index = (ctx.checkbox index).map change)

include changes

/-- A box that is numbered is changed. -/
theorem matched_checkbox_recheck (index : Int) : Matched (Changed change)
    ((ctx.checkbox index).map fun box => Node.leaf (.checkbox box))
    (((ctx.recheck boxes).checkbox index).map fun box => Node.leaf (.checkbox box)) := by
  rw [changes]
  cases ctx.checkbox index with
  | error fault => exact .error fault fault
  | ok box => exact .ok rfl

/-- One decision that is right under both contexts is in step with itself. -/
theorem Decision.Builds.inStep_recheck {site : Site} {decision : Decision}
    (builds : decision.Builds ctx site) (builds' : decision.Builds (ctx.recheck boxes) site) :
    decision.InStep (Changed change) decision := by
  cases decision with
  | decline => exact .decline
  | fail fault => exact .fail fault fault
  | render scope build =>
    obtain ⟨made, built, shows⟩ := builds
    exact Node.respects_changed.inStep_render built fun content isMade =>
      box?_of_shows (shows content isMade)
  | number build =>
    obtain ⟨-, built⟩ := builds
    obtain ⟨-, built'⟩ := builds'
    refine .number fun index => ?_
    have matched := matched_checkbox_recheck changes index
    rwa [← built, ← built'] at matched

/-- **Every rule decides in step** if other boxes are checked. -/
theorem Rule.decide_inStep_recheck (rule : Rule) (site : Site) :
    (rule.decide ctx site).InStep (Changed change) (rule.decide (ctx.recheck boxes) site) := by
  have builds := @decide_builds ctx site rule
  have builds' := @decide_builds (ctx.recheck boxes) site rule
  cases rule with
  | checkbox =>
    rw [decide, decide, decideCheckbox, decideCheckbox]
    split
    · refine .number fun index => ?_
      rw [bind_pure_comp, bind_pure_comp]
      exact matched_checkbox_recheck changes index
    · exact .decline
  | _ => exact builds.inStep_recheck changes builds'

/-- **Which boxes are checked shows in the boxes and nowhere else.** -/
theorem transform_recheck (rules : List Rule) (document : Markup) (start : Int) :
    (transform rules (ctx.recheck boxes) document start).1 =
        (transform rules ctx document start).1.mapBoxes change ∧
      (transform rules (ctx.recheck boxes) document start).2 =
        (transform rules ctx document start).2 := by
  have inStep := transformNode_inStep (R := Changed change)
    (fun value pass => ?_) (fun _ _ _ below => Node.respects_changed _ _ _ rfl below)
    (fun site => Rule.decideAll_inStep (fun rule => rule.decide_inStep_recheck changes site) rules)
    [] [] document (Pass.start start)
  · exact ⟨inStep.1.symm, inStep.2.symm⟩
  · have same := @transformText_congr (ctx.recheck boxes) ctx rfl rfl rfl rfl value pass
    exact Node.respects_changed.transformText (fun _ => box?_of_occursInText) same

end Recheck

/-! ## One box of one step -/

/-- The box is the one of the given number in the given step. -/
def Checkbox.isAt (guide step index : Int) (box : Checkbox) : Bool :=
  box.guide == some (.number guide) && box.step == some (.number step) && box.index == index

/-- The box, checked the other way if it is the one that is meant. -/
def Checkbox.toggleAt (guide step index : Int) (box : Checkbox) : Checkbox :=
  if box.isAt guide step index then { box with checked := !box.checked } else box

/-- **The tree with one box of one step checked the other way.** -/
def Node.toggleAt (guide step index : Int) (tree : Node) : Node :=
  tree.mapBoxes (Checkbox.toggleAt guide step index)

namespace Context

/-- The context is one of the given step. -/
def isIn (guide step : Int) (ctx : Context) : Bool :=
  ctx.guide == some (.number guide) && ctx.step == some (.number step)

/-- The context with a box toggled, if it is a context of the step of the box. -/
def toggleAt (guide step index : Int) (ctx : Context) : Context :=
  ctx.recheck (ctx.checked.map fun boxes =>
    if ctx.isIn guide step then toggleBox index boxes else boxes)

theorem isChecked_toggleAt (nodup : ∀ boxes, ctx.checked = some boxes → boxes.Nodup)
    (number : Int) : (ctx.toggleAt guide step index).isChecked number =
      (ctx.isChecked number).map fun checked =>
        checked ^^ (ctx.isIn guide step && number == index) := by
  rw [isChecked, isChecked, toggleAt, recheck]
  cases known : ctx.checked with
  | none => rfl
  | some boxes =>
    cases within : ctx.isIn guide step with
    | true =>
      have toggled := @contains_toggleBox boxes index number (nodup boxes known)
      rw [Bool.beq_comm] at toggled
      exact congrArg Except.ok toggled
    | false => simp [need, Except.map]

/-- **A context with a box toggled** makes the same boxes, but that one is checked the other way. -/
theorem checkbox_toggleAt (nodup : ∀ boxes, ctx.checked = some boxes → boxes.Nodup) (number : Int) :
    (ctx.toggleAt guide step index).checkbox number =
      (ctx.checkbox number).map (Checkbox.toggleAt guide step index) := by
  have sameStep : (ctx.toggleAt guide step index).hasStep = ctx.hasStep := rfl
  rw [checkbox, checkbox, isChecked_toggleAt nodup, sameStep]
  split
  · cases ctx.isChecked number with
    | error fault => rfl
    | ok checked =>
      refine congrArg Except.ok ?_
      have meant : (⟨number, checked, !ctx.disabled, ctx.guide, ctx.step⟩ : Checkbox).isAt
          guide step index = (ctx.isIn guide step && number == index) := rfl
      rw [Checkbox.toggleAt, meant]
      cases ctx.isIn guide step && number == index with
      | true => simp [toggleAt, recheck]
      | false => simp [toggleAt, recheck]
  · rfl

end Context

/-! ## Trees after a toggle -/

namespace Progress

variable {progress : Progress}

/-- Without a step no boxes are checked, except that a blank one is a fault in a guide on record. -/
theorem checkedAt_blank (guide : Int) : progress.checkedAt (.number guide) .blank =
    if (progress.guide? guide).isSome then .error .notSingle else .ok [] := by
  simp only [checkedAt, Entry.key, bind, Except.bind]
  cases progress.guide? guide <;> rfl

/-- A toggle in a guide that is on record puts no other guide on record. -/
theorem isSome_guide?_toggle_of_named (named : (progress.step? guide).isSome) (other : Int) :
    ((progress.toggle guide step index).guide? other).isSome =
      (progress.guide? other).isSome := by
  rw [step?, Option.isSome_map] at named
  rw [toggle, guide?_modify]
  split
  · rename_i same
    rw [same, named]
    rfl
  · rfl

/-- The checked boxes of a step as it was entered are the ones before, with the box toggled if it is
meant. -/
theorem checkedAt_toggle_of_named (named : (progress.step? guide).isSome)
    (guide' step' : Entry) :
    (progress.toggle guide step index).checkedAt guide' step' =
      (progress.checkedAt guide' step').map fun boxes =>
        if guide' == .number guide && step' == .number step then toggleBox index boxes
        else boxes := by
  cases guide' with
  | blank => rfl
  | number other =>
  cases step' with
  | blank =>
    have notMeant : (Entry.blank == Entry.number step) = false := rfl
    rw [checkedAt_blank, checkedAt_blank, isSome_guide?_toggle_of_named named, notMeant,
      Bool.and_false]
    split <;> rfl
  | number at' =>
    rw [checkedAt_number, checkedAt_number, checked_toggle]
    simp only [Except.map, Bool.and_eq_true, beq_iff_eq, Entry.number.injEq]
    split
    · rename_i same
      rw [same.1, same.2]
    · rfl

theorem checkedIn_toggle_of_named (named : (progress.step? guide).isSome)
    (guide' step' : Option Entry) :
    (progress.toggle guide step index).checkedIn guide' step' =
      (progress.checkedIn guide' step').map fun boxes =>
        if guide' == some (.number guide) && step' == some (.number step) then
          toggleBox index boxes
        else boxes := by
  cases guide' with
  | none => cases step' <;> rfl
  | some guide' =>
    cases step' with
    | none => simp [checkedIn, Except.map]
    | some step' =>
      simp only [Option.some_beq_some]
      exact checkedAt_toggle_of_named named guide' step'

/-- No box is checked twice within what was entered. -/
theorem Reachable.nodup_checkedIn (reachable : progress.Reachable) {guide' step' : Option Entry}
    {boxes : List Int} (checked : progress.checkedIn guide' step' = .ok boxes) : boxes.Nodup := by
  rw [checkedIn.eq_def] at checked
  split at checked
  · obtain ⟨guide, -, checked⟩ := exists_ok_of_bind checked
    split at checked
    · obtain rfl := Except.ok.inj checked
      exact List.nodup_nil
    · obtain ⟨step, -, ⟨⟩⟩ := exists_ok_of_bind checked
      exact reachable.nodup_checked guide step
  · obtain rfl := Except.ok.inj checked
    exact List.nodup_nil

end Progress

namespace Renderer

variable {progress : Progress} {renderer : Renderer} {document : Markup}
  {guide' step' : Option Entry} {disabled : Bool}

/-- **The context after a toggle** is the one before with the box toggled. -/
theorem context_toggle_of_named (named : (progress.step? guide).isSome) :
    renderer.context (progress.toggle guide step index) guide' step' disabled =
      (renderer.context progress guide' step' disabled).map
        (Context.toggleAt guide step index) := by
  rw [context_eq, context_eq, Progress.checkedIn_toggle_of_named named,
    Progress.saved_toggle_of_named named]
  cases progress.checkedIn guide' step' with
  | error misfit => rfl
  | ok boxes =>
    simp only [Except.map, bind, Except.bind, around]
    cases renderer.config.whitelist <;> cases renderer.config.mapping <;>
      cases Links.ofFields renderer.properties (renderer.config.part .resourceLinks) <;>
      cases renderer.config.message "hidden_link" "hidden link" <;> rfl

/-- **A tree after a toggle** is the one before with the box checked the other way. -/
theorem renderTree_toggle_of_named (reachable : progress.Reachable)
    (named : (progress.step? guide).isSome) :
    renderer.renderTree (progress.toggle guide step index) document guide' step' disabled =
      (renderer.renderTree progress document guide' step' disabled).map
        (Node.toggleAt guide step index) := by
  rw [renderTree, renderTree, context_toggle_of_named named]
  cases made : renderer.context progress guide' step' disabled with
  | error misfit => rfl
  | ok ctx =>
    have nodup : ∀ boxes, ctx.checked = some boxes → boxes.Nodup := by
      obtain ⟨found, asked, checked⟩ := (owes_of_context made).checked
      intro boxes there
      obtain rfl := Option.some.inj (checked.symm.trans there)
      exact reachable.nodup_checkedIn asked
    have changes := @Context.checkbox_toggleAt ctx guide step index nodup
    exact congrArg Except.ok (transform_recheck changes Rule.standard document 0).1

end Renderer

/-! ## Footprints -/

/-- **At most one box of a tree is the one that is meant.** -/
theorem countP_isAt_boxes_le (rules : List Rule) (ctx : Context) (document : Markup) (start : Int) :
    (transform rules ctx document start).1.boxes.countP (·.isAt guide step index) ≤ 1 := by
  have numbers := (numbered_singleton.mp (numbered_transform rules ctx document start)).1
  have nodup : ((transform rules ctx document start).1.boxes.map Checkbox.index).Nodup := by
    rw [numbers, Int.range]
    exact List.nodup_range.map fun a b same => by omega
  calc
    _ ≤ (transform rules ctx document start).1.boxes.countP (·.index == index) :=
      List.countP_mono_left fun box _ isAt => (Bool.and_eq_true_iff.mp isAt).2
    _ = ((transform rules ctx document start).1.boxes.map Checkbox.index).count index := by
      rw [List.count, List.countP_map]
      rfl
    _ ≤ 1 := List.nodup_iff_count_le_one.mp nodup index

namespace Progress

/-- Both progresses answer all questions alike: the boxes that are checked, where the reader is, and
which steps are on record. -/
structure AnswersAs (progress progress' : Progress) : Prop where
  checked : ∀ guide step, (progress.checked guide step).Perm (progress'.checked guide step)
  step? : ∀ guide, progress.step? guide = progress'.step? guide
  saved : progress.saved = progress'.saved

/-- **The toggle touches one box only**, in the progress and in every tree that a renderer makes. -/
structure TouchesBoxOnly (progress : Progress) (guide step index : Int) : Prop where
  step? : ∀ other, (progress.toggle guide step index).step? other = progress.step? other
  saved : (progress.toggle guide step index).saved = progress.saved
  /-- A second toggle takes the first one back. -/
  twice : ((progress.toggle guide step index).toggle guide step index).AnswersAs progress
  /-- A tree differs in the box that is meant, and such a box is in it once at most. -/
  renders : ∀ (renderer : Renderer) (document : Markup) (guide' step' : Option Entry)
    (disabled : Bool), renderer.renderTree (progress.toggle guide step index) document guide' step'
        disabled = (renderer.renderTree progress document guide' step' disabled).map
          (Node.toggleAt guide step index) ∧
      ∀ tree, renderer.renderTree progress document guide' step' disabled = .ok tree →
        tree.boxes.countP (·.isAt guide step index) ≤ 1

variable {progress : Progress}

/-- Two toggles of one box are taken back by each other in a guide that is on record. -/
theorem answersAs_toggle_toggle (reachable : progress.Reachable)
    (named : (progress.step? guide).isSome) :
    ((progress.toggle guide step index).toggle guide step index).AnswersAs progress := by
  have again : ((progress.toggle guide step index).step? guide).isSome := by
    rwa [step?_toggle_of_named named]
  refine ⟨reachable.checked_toggle_toggle, fun other => ?_, ?_⟩
  · rw [step?_toggle_of_named again, step?_toggle_of_named named]
  · rw [saved_toggle_of_named again, saved_toggle_of_named named]

theorem touchesBoxOnly_of_named (reachable : progress.Reachable)
    (named : (progress.step? guide).isSome) : progress.TouchesBoxOnly guide step index where
  step? := step?_toggle_of_named named
  saved := saved_toggle_of_named named
  twice := answersAs_toggle_toggle reachable named
  renders := by
    intro renderer document guide' step' disabled
    refine ⟨Renderer.renderTree_toggle_of_named reachable named, fun tree renders => ?_⟩
    obtain ⟨ctx, -, ⟨⟩⟩ := exists_ok_of_bind renders
    exact countP_isAt_boxes_le Rule.standard ctx document 0

/-- **A toggle touches one box only just if its guide is on record already.**  A toggle that is the
first to name its guide puts this guide on record, with the first step as the one the reader has
got to; and links that lead to where the reader has got to lead there from then on. -/
theorem touchesBoxOnly_iff (reachable : progress.Reachable) :
    progress.TouchesBoxOnly guide step index ↔ (progress.step? guide).isSome := by
  refine ⟨fun touches => ?_, touchesBoxOnly_of_named reachable⟩
  have same := touches.step? guide
  rw [step?_toggle, if_pos rfl] at same
  rw [← same]
  rfl

end Progress

/-! ### A guide in which the reader has moved, and one that has not been named -/

/-- A reader who has moved to the second step of guide 5 toggles a box of its first step. -/
theorem Progress.touchesBoxOnly_iff_moved :
    (empty.setStep 5 1).Reachable ∧ (empty.setStep 5 1).TouchesBoxOnly 5 0 0 := by
  have reachable : (empty.setStep 5 1).Reachable := .setStep .empty 5 1
  exact ⟨reachable, (touchesBoxOnly_iff reachable).mpr rfl⟩

/-- A renderer with guide 5, which has ten steps. -/
def Renderer.ofTenSteps : Renderer :=
  { packaged with registry := [(5, ⟨.number 10, "fr"⟩)] }

/-- A new reader toggles a box of guide 5 twice.  Now the guide is on record, and the link to where
the reader has got to leads to the first step, and no longer to the step that it names. -/
theorem Progress.not_touchesBoxOnly_empty :
    Reachable empty ∧ ¬ empty.TouchesBoxOnly 5 0 0 ∧
      ((empty.toggle 5 0 0).toggle 5 0 0).saved = [(5, 0)] ∧
      Renderer.ofTenSteps.renderTree empty resumingLink (some (.number 7)) (some (.number 0))
          false =
        .ok (Node.leaf (.crossGuide ⟨⟨5, 2, true, false⟩, false, false, none⟩)) ∧
      Renderer.ofTenSteps.renderTree ((empty.toggle 5 0 0).toggle 5 0 0) resumingLink
          (some (.number 7)) (some (.number 0)) false =
        .ok (Node.leaf (.crossGuide ⟨⟨5, 0, true, false⟩, false, false, none⟩)) := by
  refine ⟨.empty, fun touches => ?_, rfl, rfl, rfl⟩
  have same : some (0 : Int) = none := touches.step? 5
  exact absurd same nofun

end GuideMarkup
