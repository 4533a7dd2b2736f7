import GuideMarkup.Guide
import GuideMarkup.Numeral

/-!
# Navigation — which step a reference leads to

Markup names a guide and a step, counted from one.  The guide `0` is the one being read.  The step
is moved into the range that is known of the guide, and a reference with the step identifier `0`
leads to wherever the reader has got to, if the guide is available.
-/

namespace GuideMarkup

/-- The number that stands for the guide being read. -/
def currentGuideMark : Int := 0

/-- The step identifier that stands for the step the reader has reached. -/
def resumeMark : Int := 0

/-- A step of a guide, counted from zero, and how it is reached. -/
structure StepTarget where
  guide : Int
  step : Int
  sameGuide : Bool
  needsDownload : Bool
deriving DecidableEq, Repr

/-- The number of steps of a guide; a guide without steps has none that is known. -/
def GuideInfo.knownSteps (info : GuideInfo) : Except Fault (Option Int) := do
  let count ← info.stepCount.value
  return if 0 < count then some count else none

/-- A step number moved into range, counted from one; without a known end only below. -/
def boundedStep (number : Int) : Option Int → Int
  | some total => clamp number 1 total
  | none => max number 1

/-- The number of the step a reader resumes at, counted from one. -/
def resumedStep (saved : Int) (total : Option Int) : Int :=
  clamp (saved + 1) 1 (total.getD (saved + 1))

namespace Context

/-- The guide that a reference leads to; outside of any guide there is no current one. -/
def targetGuide? (ctx : Context) (guide : Int) : Option Entry :=
  if guide = currentGuideMark then ctx.guide else some (.number guide)

/-- The number of steps of a guide that may be available, if it is known. -/
def totalSteps : Option GuideInfo → Except Fault (Option Int)
  | none => .ok none
  | some info => info.knownSteps

/-- The reference leads to the guide being read. -/
def isSameGuide (ctx : Context) (guide : Int) : Bool :=
  ctx.guide == some (.number guide) || guide == currentGuideMark

/-- **The step that a reference leads to.**  A reference to the current guide from outside of any
guide leads nowhere. -/
def stepTarget? (ctx : Context) (guide number : Int) (stepId : Option Int) :
    Except Fault (Option StepTarget) :=
  match ctx.targetGuide? guide with
  | none => .ok none
  | some entry => do
    let info ← ctx.guideInfo (some entry)
    let target ← entry.value
    let total ← totalSteps info
    let declared := boundedStep number total
    let saved ← if info.isSome && stepId == some resumeMark then ctx.savedStep target else .ok none
    let chosen := match saved with
      | some reached => resumedStep reached total
      | none => declared
    return some ⟨target, chosen - 1, ctx.isSameGuide guide,
      !ctx.isSameGuide guide && info.isNone⟩

end Context
end GuideMarkup
