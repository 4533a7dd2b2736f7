import GuideMarkup.Activation
import GuideMarkup.Proofs.Numbering
import GuideMarkup.Proofs.Skeleton
import GuideMarkup.Proofs.Toggling
import GuideMarkup.Render

/-!
# Proofs/Persistence — boxes that were activated are checked when the step is shown again

    step shown  ──boxes activated──▸  progress  ──step shown again──▸  the same boxes, toggled

Three facts meet here.  The boxes of a step are those of its range of numbers, checked as the
progress says, and how far the reader has got does not move the range, by way of the skeleton of the
tree (`Renderer.stepBoxes_cases`).  A box toggles its own number, whether the tree it is from is new
or old (`activate_offered`).  And toggles are counted by their parity.
-/

namespace GuideMarkup

variable {σ : Type} {renderer : Renderer} {document : Markup} {guide step : Int}

/-! ## The context of a step -/

theorem Progress.checkedAt_number (progress : Progress) (guide step : Int) :
    progress.checkedAt (.number guide) (.number step) = .ok (progress.checked guide step) := by
  simp only [checkedAt, Entry.key, bind, Except.bind]
  cases known : progress.guide? guide with
  | none =>
    rw [checked, known]
    rfl
  | some own => rfl

/-- The boxes that are checked within the guide and the step that were entered. -/
def Progress.checkedIn (progress : Progress) : Option Entry → Option Entry →
    Except Misfit (List Int)
  | some guide, some step => progress.checkedAt guide step
  | _, _ => .ok []

/-- The context around some checked boxes. -/
def Renderer.around (renderer : Renderer) (saved : Table Int Int) (guide step : Option Entry)
    (disabled : Bool) (checked : List Int) : Except Misfit Context := do
  let whitelist ← renderer.config.whitelist
  let mapping ← renderer.config.mapping
  let links ← Links.ofFields renderer.properties (renderer.config.part .resourceLinks)
  let hiddenLinkText ← renderer.config.message "hidden_link" "hidden link"
  return {
    whitelist, guide, step, disabled, links, hiddenLinkText
    platform := renderer.platform
    registry := some renderer.registry
    checked := some checked
    mapping := some (mapping.map fun (kind, pages) => (kind, some pages))
    saved := some saved
    travelCopy := renderer.travelCopy }

/-- A context depends on the reader's progress by the checked boxes and by the steps on record. -/
theorem Renderer.context_eq (progress : Progress) (guide step : Option Entry) (disabled : Bool) :
    renderer.context progress guide step disabled =
      progress.checkedIn guide step >>= renderer.around progress.saved guide step disabled := by
  cases guide <;> cases step <;> rfl

theorem Renderer.around_eq_map (saved saved' : Table Int Int) (guide step : Option Entry)
    (disabled : Bool) (checked checked' : List Int) :
    renderer.around saved' guide step disabled checked' =
      (renderer.around saved guide step disabled checked).map fun ctx =>
        { ctx with checked := some checked', saved := some saved' } := by
  rw [around, around]
  cases renderer.config.whitelist <;> cases renderer.config.mapping <;>
    cases Links.ofFields renderer.properties (renderer.config.part .resourceLinks) <;>
    cases renderer.config.message "hidden_link" "hidden link" <;> rfl

/-- What a context owes to the renderer and to the reader. -/
structure Context.Owes (ctx : Context) (renderer : Renderer) (progress : Progress)
    (atGuide atStep : Option Entry) (disabled : Bool) : Prop where
  guide : ctx.guide = atGuide
  step : ctx.step = atStep
  disabled : ctx.disabled = disabled
  registry : ctx.registry = some renderer.registry
  mapping : ctx.mapping.isSome
  saved : ctx.saved = some progress.saved
  checked : ∃ boxes, progress.checkedIn atGuide atStep = .ok boxes ∧ ctx.checked = some boxes

/-- **What is in the contexts that a renderer makes.** -/
theorem Renderer.owes_of_context {progress : Progress} {guide step : Option Entry}
    {disabled : Bool} {ctx : Context}
    (made : renderer.context progress guide step disabled = .ok ctx) :
    ctx.Owes renderer progress guide step disabled := by
  rw [context_eq] at made
  obtain ⟨checked, asked, made⟩ := exists_ok_of_bind made
  obtain ⟨whitelist, -, made⟩ := exists_ok_of_bind made
  obtain ⟨mapping, -, made⟩ := exists_ok_of_bind made
  obtain ⟨links, -, made⟩ := exists_ok_of_bind made
  obtain ⟨text, -, ⟨⟩⟩ := exists_ok_of_bind made
  exact ⟨rfl, rfl, rfl, rfl, rfl, rfl, checked, asked, rfl⟩

/-- A context with the reader's progress in one step put into it. -/
def Context.withProgress (ctx : Context) (progress : Progress) (guide step : Int) : Context :=
  { ctx with checked := some (progress.checked guide step), saved := some progress.saved }

/-- The context of a step for a reader with the given progress. -/
def Renderer.stepContext (renderer : Renderer) (progress : Progress) (guide step : Int) :
    Except Misfit Context :=
  renderer.context progress (some (.number guide)) (some (.number step)) false

/-- **The context of a step is that of a new reader** with the progress put into it. -/
theorem Renderer.stepContext_eq (progress : Progress) :
    renderer.stepContext progress guide step =
      (renderer.stepContext .empty guide step).map fun ctx =>
        ctx.withProgress progress guide step := by
  simp only [stepContext, context_eq, Progress.checkedIn, Progress.checkedAt_number]
  exact around_eq_map ..

/-- A context that a renderer makes for a step. -/
structure Context.OfStep (ctx : Context) (guide step : Int) : Prop where
  guide : ctx.guide = some (.number guide)
  step : ctx.step = some (.number step)
  enabled : ctx.disabled = false
  mapping : ctx.mapping.isSome

theorem Renderer.ofStep_of_stepContext {progress : Progress} {ctx : Context}
    (made : renderer.stepContext progress guide step = .ok ctx) : ctx.OfStep guide step := by
  have owes := owes_of_context made
  exact ⟨owes.guide, owes.step, owes.disabled, owes.mapping⟩

/-- The progress put into a context changes nothing that the skeleton depends on. -/
theorem Context.OfStep.agrees {ctx : Context} (ofStep : ctx.OfStep guide step)
    (progress progress' : Progress) :
    (ctx.withProgress progress guide step).Agrees (ctx.withProgress progress' guide step) where
  whitelist := rfl
  guide := rfl
  registry := rfl
  links := rfl
  checked := ⟨rfl, rfl⟩
  mapping := ⟨ofStep.mapping, ofStep.mapping⟩
  saved := ⟨rfl, rfl⟩

/-! ## The boxes of a step -/

/-- The tree of a step for a reader with the given progress. -/
def Renderer.stepTree (renderer : Renderer) (document : Markup) (guide step : Int)
    (progress : Progress) : Except Misfit Node :=
  renderer.renderTree progress document (some (.number guide)) (some (.number step)) false

/-- The box of a step that has the given number. -/
def Progress.box (progress : Progress) (guide step index : Int) : Checkbox :=
  ⟨index, (progress.checked guide step).contains index, true, some (.number guide),
    some (.number step)⟩

theorem Context.OfStep.checkbox {ctx : Context} (ofStep : ctx.OfStep guide step)
    (progress : Progress) (index : Int) :
    (ctx.withProgress progress guide step).checkbox index =
      .ok (progress.box guide step index) := by
  have hasStep : (ctx.withProgress progress guide step).hasStep = true := by
    rw [hasStep, withProgress, ofStep.guide, ofStep.step]
    rfl
  rw [Context.checkbox, if_pos hasStep]
  simp only [withProgress, ofStep.guide, ofStep.step, ofStep.enabled]
  rfl

/-- A list whose members are known from their images is known from its image. -/
theorem eq_map_of_map_eq {α β : Type} {list : List α} {images : List β} {read : α → β}
    {build : β → α} (reads : list.map read = images)
    (builds : ∀ a ∈ list, build (read a) = a) : list = images.map build := by
  have unchanged : list.map (build ∘ read) = list.map id := List.map_congr_left builds
  rw [← reads, List.map_map, unchanged, List.map_id]

/-- **The boxes of a step are those of its range of numbers**, checked as the progress says.  The
range is the same for all readers. -/
theorem Context.OfStep.exists_range {ctx : Context} (ofStep : ctx.OfStep guide step)
    (document : Markup) : ∃ total : Nat, ∀ progress : Progress,
      (transform Rule.standard (ctx.withProgress progress guide step) document 0).1.boxes =
        (List.range total).map fun index : Nat => progress.box guide step index := by
  refine ⟨(transform Rule.standard (ctx.withProgress .empty guide step) document 0).2.next.toNat,
    fun progress => ?_⟩
  have same : (transform Rule.standard (ctx.withProgress .empty guide step) document 0).2 =
      (transform Rule.standard (ctx.withProgress progress guide step) document 0).2 :=
    (transformNode_of_agrees (ofStep.agrees .empty progress) Rule.standard [] [] document _).2
  have numbers := (numbered_singleton.mp (numbered_transform Rule.standard
    (ctx.withProgress progress guide step) document 0)).1
  have builds : ∀ box ∈ (transform Rule.standard (ctx.withProgress progress guide step)
      document 0).1.boxes, progress.box guide step box.index = box := fun box member => by
    have made := checkbox_of_mem_boxes member
    rw [ofStep.checkbox] at made
    exact Except.ok.inj made
  rw [← same, Pass.start, range_zero] at numbers
  rw [eq_map_of_map_eq numbers builds, List.map_map]
  rfl

/-- The boxes that a step shows to a reader with the given progress. -/
def Renderer.stepBoxes (renderer : Renderer) (document : Markup) (guide step : Int)
    (progress : Progress) : Except Misfit (List Checkbox) :=
  (renderer.stepTree document guide step progress).map Node.boxes

/-- **A step cannot be shown, or its boxes are those of its range of numbers**, and that for all
readers alike. -/
theorem Renderer.stepBoxes_cases (renderer : Renderer) (document : Markup) (guide step : Int) :
    (∃ misfit, ∀ progress, renderer.stepBoxes document guide step progress = .error misfit) ∨
      ∃ total : Nat, ∀ progress : Progress, renderer.stepBoxes document guide step progress =
        .ok ((List.range total).map fun index : Nat => progress.box guide step index) := by
  have shows : ∀ progress, renderer.stepBoxes document guide step progress =
      ((renderer.stepContext progress guide step).map fun ctx =>
        (transform Rule.standard ctx document 0).1).map Node.boxes := fun _ => rfl
  cases made : renderer.stepContext .empty guide step with
  | error misfit =>
    refine Or.inl ⟨misfit, fun progress => ?_⟩
    rw [shows, stepContext_eq, made]
    rfl
  | ok ctx =>
    obtain ⟨total, boxes⟩ := (ofStep_of_stepContext made).exists_range document
    refine Or.inr ⟨total, fun progress => ?_⟩
    rw [shows, stepContext_eq, made]
    exact congrArg Except.ok (boxes progress)

/-! ## Activations -/

/-- The box is one of those that the step shows, to some reader at some time. -/
def Offered (document : Markup) (guide step : Int) (box : Checkbox) : Prop :=
  ∃ (renderer : Renderer) (progress : Progress) (boxes : List Checkbox),
    renderer.stepBoxes document guide step progress = .ok boxes ∧ box ∈ boxes

/-- A handler that toggles the boxes of the reader's progress, which is the first part of its
state, and may do anything with the rest. -/
def Forwards (handler : Handler (Progress × σ)) : Prop :=
  ∀ guide step index live state,
    (handler (.toggle guide step index) live state).2.1 = state.1.toggle guide step index

/-- The state after boxes were activated one after the other, each with some keys held. -/
def activateBoxes (messages : Messages) (platform : Platform) (handler : Handler σ)
    (gestures : List (Checkbox × Modifiers)) (state : σ) : σ :=
  gestures.foldl (fun before (box, keys) =>
    (activate messages platform handler (.checkbox box) keys before).2.2) state

section Activations

variable {messages : Messages} {platform : Platform} {handler : Handler (Progress × σ)}
  {gestures : List (Checkbox × Modifiers)}

/-- A box that was offered toggles itself. -/
theorem Offered.intents {box : Checkbox} (offered : Offered document guide step box) :
    box.intents = [.toggle guide step box.index] := by
  obtain ⟨renderer, progress, boxes, shown, member⟩ := offered
  obtain ⟨misfit, fails⟩ | ⟨total, shows⟩ := renderer.stepBoxes_cases document guide step
  · rw [fails] at shown
    exact absurd shown nofun
  · rw [shows] at shown
    obtain rfl := Except.ok.inj shown
    obtain ⟨index, -, rfl⟩ := List.mem_map.mp member
    rfl

/-- **An activation of a box that was offered toggles its number** in the reader's progress. -/
theorem activate_offered {box : Checkbox} (forwards : Forwards handler)
    (offered : Offered document guide step box) (keys : Modifiers) (state : Progress × σ) :
    (activate messages platform handler (.checkbox box) keys state).2.2.1 =
      state.1.toggle guide step box.index := by
  have intents : (Content.checkbox box).intents keys platform = [.toggle guide step box.index] :=
    offered.intents
  rw [activate, intents, ← forwards guide step box.index (Content.checkbox box) state]
  simp only [carryOut, Content.begin]
  split <;> rfl

/-- **A run of activations toggles the numbers of its boxes**, one after the other. -/
theorem activateBoxes_offered (forwards : Forwards handler)
    (offered : ∀ gesture ∈ gestures, Offered document guide step gesture.1)
    (state : Progress × σ) :
    (activateBoxes messages platform handler gestures state).1 =
      state.1.toggleAll guide step (gestures.map (·.1.index)) := by
  induction gestures generalizing state with
  | nil => rfl
  | cons gesture rest ih =>
    obtain ⟨first, others⟩ := List.forall_mem_cons.mp offered
    rw [activateBoxes, List.foldl_cons, List.map_cons, Progress.toggleAll_cons,
      ← activate_offered forwards first gesture.2 state]
    exact ih others _

/-- Boxes by number, read one after the other, are the boxes of the positions. -/
theorem map_range_box {progress progress' : Progress} {turns : Int → Bool}
    (turned : ∀ index, (progress'.checked guide step).contains index =
      ((progress.checked guide step).contains index ^^ turns index)) (total : Nat) :
    (List.range total).map (fun index : Nat => progress'.box guide step index) =
      ((List.range total).map fun index : Nat => progress.box guide step index).mapIdx
        fun i box => { box with checked := box.checked ^^ turns i } := by
  refine List.ext_getElem (by simp) fun i _ _ => ?_
  simp only [List.getElem_mapIdx, List.getElem_map, List.getElem_range, Progress.box, turned]

/-- **Activated boxes stay as they were left.**  After any run of activations of boxes that the step
has offered, the step shows the same boxes, and the box at a position is checked iff it was before,
or not, by the parity of the activations of its number.  No box of another step changes. -/
theorem stepBoxes_activateBoxes {progress : Progress} (reachable : progress.Reachable)
    (forwards : Forwards handler)
    (offered : ∀ gesture ∈ gestures, Offered document guide step gesture.1)
    (renderer : Renderer) (messages : Messages) (platform : Platform) (own : σ) :
    let after := (activateBoxes messages platform handler gestures (progress, own)).1
    renderer.stepBoxes document guide step after =
        ((renderer.stepBoxes document guide step progress).map fun boxes =>
          boxes.mapIdx fun i box => { box with
            checked := box.checked ^^ decide (Odd (gestures.countP (·.1.index == (i : Int)))) }) ∧
      ∀ guide' step', ¬(guide' = guide ∧ step' = step) →
        after.checked guide' step' = progress.checked guide' step' := by
  intro after
  have toggled : after = progress.toggleAll guide step (gestures.map (·.1.index)) :=
    activateBoxes_offered forwards offered (progress, own)
  have turned : ∀ index, (after.checked guide step).contains index =
      ((progress.checked guide step).contains index ^^
        decide (Odd (gestures.countP (·.1.index == index)))) := fun index => by
    rw [toggled, Progress.contains_toggleAll reachable, List.count, List.countP_map]
    rfl
  refine ⟨?_, fun guide' step' elsewhere => ?_⟩
  · obtain ⟨misfit, fails⟩ | ⟨total, shows⟩ := renderer.stepBoxes_cases document guide step
    · rw [fails, fails]
      rfl
    · rw [shows, shows, map_range_box turned]
      rfl
  · rw [toggled, Progress.checked_toggleAll_of_ne elsewhere]

end Activations

/-! ### Two boxes -/

/-- The reader's own handler, with nothing else in its state. -/
def Progress.forwarder : Handler (Progress × Unit) := fun intent live (progress, _) =>
  ((handler intent live progress).1, (handler intent live progress).2, ())

/-- A list item that holds two boxes. -/
def twoBoxes : Markup :=
  .element ⟨"li", []⟩ [.element ⟨"input", [("type", "checkbox")]⟩ [],
    .element ⟨"input", [("type", "checkbox")]⟩ []]

/-- A renderer without guides, in the packaged configuration. -/
def Renderer.packaged : Renderer := ⟨[], ⟨false⟩, .packaged, false, Template.plainProperties⟩

/-- The first box is activated twice, both times as the new reader saw it, and the second once. -/
def threeGestures : List (Checkbox × Modifiers) :=
  [0, 1, 0].map fun index => (Progress.empty.box 7 2 index, .none)

theorem offered_twoBoxes : ∀ gesture ∈ threeGestures, Offered twoBoxes 7 2 gesture.1 := by
  have shows : Renderer.packaged.stepBoxes twoBoxes 7 2 .empty =
      .ok [Progress.empty.box 7 2 0, Progress.empty.box 7 2 1] := by rfl
  intro gesture member
  refine ⟨Renderer.packaged, .empty, _, shows, ?_⟩
  revert gesture
  decide

/-- Of the two boxes, the second is checked in the end. -/
theorem stepBoxes_activateBoxes_twoBoxes :
    Progress.empty.Reachable ∧ Forwards Progress.forwarder ∧
      (∀ gesture ∈ threeGestures, Offered twoBoxes 7 2 gesture.1) ∧
      Renderer.packaged.stepBoxes twoBoxes 7 2
          (activateBoxes ⟨"", ""⟩ ⟨false⟩ Progress.forwarder threeGestures (.empty, ())).1 =
        .ok [⟨0, false, true, some (.number 7), some (.number 2)⟩,
          ⟨1, true, true, some (.number 7), some (.number 2)⟩] := by
  have forwards : Forwards Progress.forwarder := fun _ _ _ _ _ => rfl
  refine ⟨.empty, forwards, offered_twoBoxes, ?_⟩
  have toggled := (stepBoxes_activateBoxes .empty forwards offered_twoBoxes Renderer.packaged
    ⟨"", ""⟩ ⟨false⟩ ()).1
  exact toggled.trans rfl

end GuideMarkup
