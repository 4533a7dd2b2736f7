import GuideMarkup.Proofs.Directions
import GuideMarkup.Proofs.Tables

/-!
# Proofs/Targets — what a reference comes to, whatever is on record

    the step declared                      ↦  a step of the guide
    the step reached, of a known number    ↦  a step of the guide
    the step reached, of no known number   ↦  the step reached, be it before the first one

References are followed here in all contexts that have their tables, with whatever integers in them
(`Context.Knows`).  Every reference to a guide leads to it and asks for a download just if it has
to, and a step that has an end never comes to lie behind it.  It comes to lie before the first one
in one case only (`Setting.Strays`): the number of a reached step is its own upper bound there, and
the upper bound wins over the lower one.
-/

namespace GuideMarkup

variable {ctx : Context} {setting : Setting} {reached : Table Int Int}

/-! ## Contexts with all tables -/

/-- The context is one of a setting in which the reader has reached some steps, and all numbers of
steps have been entered. -/
structure Context.Knows (ctx : Context) (setting : Setting) (reached : Table Int Int) : Prop where
  guide : ctx.guide = setting.guide.map .number
  registry : ctx.registry = some setting.registry
  saved : ctx.saved = some reached
  counted : ∀ guide info, setting.registry.lookup guide = some info →
    ∃ count, info.stepCount = .number count

namespace Setting

/-- The guide that a reference is to, where zero stands for the one being read. -/
def target? (setting : Setting) (guide : Int) : Option Int :=
  if guide = 0 then setting.guide else some guide

/-- **A reference goes astray**: it resumes at a step before the first one, in a guide that is
available but has no steps. -/
def Strays (setting : Setting) (reached : Table Int Int) (guide : Int) (stepId : Option Int) :
    Prop :=
  stepId = some 0 ∧
    (∃ info count, setting.registry.lookup guide = some info ∧ info.stepCount = .number count ∧
      count ≤ 0) ∧
    ∃ step, reached.lookup guide = some step ∧ step < 0

/-- The number of steps of a guide, if it is known. -/
def steps? (setting : Setting) (guide : Int) : Option Int :=
  (setting.registry.lookup guide).bind fun info =>
    match info.stepCount with
    | .number count => if 0 < count then some count else none
    | .blank => none

/-- The step at which a reference to a guide resumes. -/
def resumed? (setting : Setting) (reached : Table Int Int) (guide : Int) (stepId : Option Int) :
    Option Int :=
  if (setting.registry.lookup guide).isSome && stepId == some 0 then reached.lookup guide else none

end Setting

/-- **What a reference to a guide comes to.** -/
structure StepTarget.Answers (target : StepTarget) (setting : Setting) (reached : Table Int Int)
    (guide : Int) (stepId : Option Int) : Prop where
  leadsTo : target.guide = guide
  same : target.sameGuide = true ↔ setting.guide = some guide
  download : target.needsDownload = true ↔ setting.Lacks guide
  /-- The step is none behind the last one. -/
  lt_count : ∀ info count, setting.registry.lookup guide = some info →
    info.stepCount = .number count → 0 < count → target.step < count
  /-- The step is none before the first one, unless the reference goes astray. -/
  nonneg_iff : 0 ≤ target.step ↔ ¬setting.Strays reached guide stepId

/-! ## Steps -/

section Steps

variable {guide : Int} {stepId : Option Int}

theorem Setting.target?_eq_none_iff :
    setting.target? guide = none ↔ guide = 0 ∧ setting.guide = none := by
  rw [target?]
  split <;> simp_all

theorem Setting.steps?_of_lookup {info : GuideInfo} {count : Int}
    (known : setting.registry.lookup guide = some info) (isCount : info.stepCount = .number count) :
    setting.steps? guide = if 0 < count then some count else none := by
  rw [steps?, known, Option.bind_some, isCount]

theorem Setting.positive_of_steps? :
    ∀ count, setting.steps? guide = some count → 0 < count := by
  intro count known
  obtain ⟨info, -, known⟩ := Option.bind_eq_some_iff.mp known
  split at known
  · split at known
    · rename_i positive
      exact Option.some.inj known ▸ positive
    · exact absurd known nofun
  · exact absurd known nofun

theorem chosenStep_le {number count : Int} {saved : Option Int} :
    chosenStep number (some count) saved ≤ count := by
  cases saved <;> exact Int.min_le_right _ _

/-- Where no number of steps is known, a reached step is not moved at all. -/
theorem resumedStep_none (step : Int) : resumedStep step none = step + 1 := by
  rw [resumedStep, clamp, Option.getD_none]
  omega

/-- A chosen step is before the first one just if it was reached, and the number of steps is not
known. -/
theorem one_le_chosenStep_iff {number : Int} {total saved : Option Int}
    (positive : ∀ count, total = some count → 0 < count) :
    1 ≤ chosenStep number total saved ↔ ¬(total = none ∧ ∃ step, saved = some step ∧ step < 0) := by
  cases saved with
  | none => simp [chosenStep, (inRange_boundedStep positive number).1]
  | some step =>
    cases total with
    | none =>
      have same : 1 ≤ step + 1 ↔ ¬step < 0 := by omega
      simp [chosenStep, resumedStep_none, same]
    | some count =>
      have inside : 1 ≤ chosenStep number (some count) (some step) :=
        Int.le_min.mpr ⟨Int.le_max_right _ _, positive count rfl⟩
      simp [inside]

end Steps

/-! ## References -/

namespace Context.Knows

variable (knows : ctx.Knows setting reached) {guide : Int} {stepId : Option Int}

include knows

/-- **A reference goes astray** just if it resumes before the first step of no known number. -/
theorem strays_iff : setting.Strays reached guide stepId ↔
    setting.steps? guide = none ∧
      ∃ step, setting.resumed? reached guide stepId = some step ∧ step < 0 := by
  rw [Setting.Strays, Setting.resumed?]
  cases known : setting.registry.lookup guide with
  | none => simp
  | some info =>
    obtain ⟨count, isCount⟩ := knows.counted guide info known
    rw [Setting.steps?_of_lookup known isCount]
    by_cases resumes : stepId = some 0 <;> simp [isCount, resumes]

theorem targetGuide?_eq (guide : Int) :
    ctx.targetGuide? guide = (setting.target? guide).map .number := by
  rw [targetGuide?, currentGuideMark, Setting.target?, knows.guide]
  by_cases mark : guide = 0
  · rw [if_pos mark, if_pos mark]
  · rw [if_neg mark, if_neg mark]
    rfl

theorem totalSteps_eq (guide : Int) :
    totalSteps (setting.registry.lookup guide) = .ok (setting.steps? guide) := by
  rw [Setting.steps?]
  cases known : setting.registry.lookup guide with
  | none => rfl
  | some info =>
    obtain ⟨count, isCount⟩ := knows.counted guide info known
    rw [totalSteps, GuideInfo.knownSteps, isCount, Option.bind_some, isCount]
    rfl

/-- **The target of a reference**, in terms of the setting. -/
theorem stepTarget?_eq (guide number : Int) (stepId : Option Int) :
    ctx.stepTarget? guide number stepId = .ok ((setting.target? guide).map fun own =>
      ⟨own, chosenStep number (setting.steps? own) (setting.resumed? reached own stepId) - 1,
        ctx.isSameGuide guide,
        !ctx.isSameGuide guide && (setting.registry.lookup own).isNone⟩) := by
  rw [stepTarget?, knows.targetGuide?_eq]
  cases setting.target? guide with
  | none => rfl
  | some own =>
    have saved : ctx.savedStep own = .ok (reached.lookup own) := by
      rw [savedStep, knows.saved]
      rfl
    simp only [Option.map_some, guideInfo_number knows.registry, Entry.value, bind, Except.bind,
      knows.totalSteps_eq, saved, Setting.resumed?]
    rw [resumeMark]
    split
    · cases reached.lookup own <;> rfl
    · rfl

/-- **What a reference comes to**: it is to no guide just outside of all guides, and otherwise it
has a target, in the range of the guide unless it goes astray. -/
theorem exists_answers (guide number : Int) (stepId : Option Int) :
    (ctx.stepTarget? guide number stepId = .ok none ↔ guide = 0 ∧ setting.guide = none) ∧
      ∀ own, setting.target? guide = some own → ∃ target,
        ctx.stepTarget? guide number stepId = .ok (some target) ∧
          target.Answers setting reached own stepId := by
  rw [knows.stepTarget?_eq]
  refine ⟨by simp [Setting.target?_eq_none_iff], fun own isTarget => ?_⟩
  rw [isTarget, Option.map_some]
  have there : ctx.targetGuide? guide = some (.number own) := by
    rw [knows.targetGuide?_eq, isTarget]
    rfl
  have same := (isSameGuide_iff there).trans (guide_eq_number_iff knows.guide own)
  refine ⟨_, rfl, rfl, same, ?_, fun info count known isCount filled => ?_, ?_⟩
  · rw [Bool.and_eq_true, Bool.not_eq_true', Option.isNone_iff_eq_none, ← Bool.not_eq_true, same,
      and_comm]
    rfl
  · rw [Setting.steps?_of_lookup known isCount, if_pos filled]
    exact Int.sub_one_lt_of_le chosenStep_le
  · rw [knows.strays_iff, ← one_le_chosenStep_iff Setting.positive_of_steps?]
    exact Int.sub_nonneg

end Context.Knows

/-! ### Guides in which the reader is said to be before the first step -/

/-- A guide of ten steps and one without steps; a third one is being read. -/
def Setting.ofTwoGuides : Setting where
  registry := [(5, ⟨.number 10, "fr"⟩), (6, ⟨.number 0, "fr"⟩)]
  guide := some 7

/-- Steps before the first one. -/
def stepsBeforeFirst : Table Int Int :=
  [(5, -3), (6, -3)]

/-- A context of the two guides in which these steps have been reached. -/
def Context.beforeFirst : Context :=
  { preview with
    guide := some (.number 7)
    registry := some Setting.ofTwoGuides.registry
    saved := some stepsBeforeFirst }

theorem Context.knows_beforeFirst : beforeFirst.Knows .ofTwoGuides stepsBeforeFirst where
  guide := rfl
  registry := rfl
  saved := rfl
  counted := by
    intro guide info known
    have member := Table.mem_of_lookup known
    simp only [Setting.ofTwoGuides, List.mem_cons, Prod.mk.injEq, List.not_mem_nil, or_false]
      at member
    obtain ⟨-, rfl⟩ | ⟨-, rfl⟩ := member
    · exact ⟨10, rfl⟩
    · exact ⟨0, rfl⟩

/-- In a guide of ten steps a reference leads to the first one then. -/
theorem Context.Knows.exists_answers_firstStep :
    Context.beforeFirst.Knows .ofTwoGuides stepsBeforeFirst ∧
      Context.beforeFirst.stepTarget? 5 4 (some 0) = .ok (some ⟨5, 0, false, false⟩) ∧
      StepTarget.Answers ⟨5, 0, false, false⟩ .ofTwoGuides stepsBeforeFirst 5 (some 0) := by
  have leads : Context.beforeFirst.stepTarget? 5 4 (some 0) =
      .ok (some ⟨5, 0, false, false⟩) := rfl
  obtain ⟨target, own, answers⟩ :=
    (Context.knows_beforeFirst.exists_answers 5 4 (some 0)).2 5 rfl
  obtain rfl := Option.some.inj (Except.ok.inj (leads.symm.trans own))
  exact ⟨Context.knows_beforeFirst, leads, answers⟩

/-- In the guide without steps the reference goes astray, to a step before the first one. -/
theorem Context.not_nonneg_astray :
    beforeFirst.Knows .ofTwoGuides stepsBeforeFirst ∧ ∃ target,
      beforeFirst.stepTarget? 6 4 (some 0) = .ok (some target) ∧ target.step < 0 :=
  ⟨knows_beforeFirst, ⟨6, -3, false, false⟩, rfl, by decide⟩

end GuideMarkup
