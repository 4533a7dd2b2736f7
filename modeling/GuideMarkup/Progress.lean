import GuideMarkup.Data.Basic

/-!
# Progress — how far a reader has got

Per guide, the step the reader is at and the checked boxes of each step in the order in which they
were checked.  A guide is on record as soon as it has been named once.
-/

namespace GuideMarkup

/-- The reader's progress in one guide. -/
structure GuideProgress where
  /-- The step the reader is at, counted from zero. -/
  step : Int
  /-- The checked boxes, by step. -/
  boxes : Table Int (List Int)
deriving DecidableEq, Repr

/-- The progress in a guide that has just been named. -/
def GuideProgress.fresh : GuideProgress := ⟨0, []⟩

/-- The boxes with one of them toggled: taken out if it is there, and put at the end if not. -/
def toggleBox (index : Int) (boxes : List Int) : List Int :=
  if boxes.contains index then boxes.erase index else boxes ++ [index]

/-- The progress with one box of one step toggled. -/
def GuideProgress.toggle (progress : GuideProgress) (step index : Int) : GuideProgress :=
  { progress with
    boxes := progress.boxes.insert step (toggleBox index ((progress.boxes.lookup step).getD [])) }

/-- A reader's progress in all guides. -/
structure Progress where
  guides : Table Int GuideProgress
deriving DecidableEq, Repr

namespace Progress

/-- No guide has been named. -/
def empty : Progress := ⟨[]⟩

/-! ## Queries -/

/-- The progress in a guide, if it has been named. -/
def guide? (progress : Progress) (guide : Int) : Option GuideProgress :=
  progress.guides.lookup guide

/-- The step the reader is at in a guide, if it has been named. -/
def step? (progress : Progress) (guide : Int) : Option Int :=
  (progress.guide? guide).map GuideProgress.step

/-- The checked boxes of a step, in the order in which they were checked. -/
def checked (progress : Progress) (guide step : Int) : List Int :=
  ((progress.guide? guide).bind fun p => p.boxes.lookup step).getD []

/-- The checked boxes of a step as it was entered.  A blank guide calls no guide on record, and a
blank step calls no step of a guide on record. -/
def checkedAt (progress : Progress) (guide step : Entry) : Except Misfit (List Int) := do
  let guide ← guide.key
  match progress.guide? guide with
  | none => return []
  | some _ => return progress.checked guide (← step.key)

/-- The step the reader is at, by guide. -/
def saved (progress : Progress) : Table Int Int :=
  progress.guides.map fun (guide, p) => (guide, p.step)

/-! ## Changes -/

/-- The progress with that in one guide changed. -/
def modify (progress : Progress) (guide : Int) (change : GuideProgress → GuideProgress) :
    Progress :=
  ⟨progress.guides.insert guide (change ((progress.guide? guide).getD .fresh))⟩

/-- **The progress with the reader moved to a step**, never before the first one. -/
def setStep (progress : Progress) (guide step : Int) : Progress :=
  progress.modify guide fun p => { p with step := max step 0 }

/-- **The progress with a box toggled.** -/
def toggle (progress : Progress) (guide step index : Int) : Progress :=
  progress.modify guide fun p => p.toggle step index

end Progress
end GuideMarkup
