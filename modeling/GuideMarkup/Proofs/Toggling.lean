import GuideMarkup.Progress
import GuideMarkup.Proofs.Tables
import Mathlib.Algebra.Ring.Parity
import Mathlib.Data.List.Nodup

/-!
# Proofs/Toggling — what toggling a box changes

Taking a box out of a list takes out its first occurrence only, so toggling is what it should be
just as long as no box is in the list twice.  No run of changes leads to a state in which one is
(`Progress.Reachable.nodup_checked`), and there a box is checked after some toggles iff it was
before, or not, by the parity of how often it was toggled (`Progress.contains_toggleAll`).  A toggle
may be the first to name a guide, and puts the reader at its first step then; so in all these states
no step is negative (`Progress.Reachable.step_nonneg`).
-/

namespace GuideMarkup

/-! ## Lists of boxes -/

section Lists

variable {boxes : List Int} {index other : Int}

theorem nodup_toggleBox (nodup : boxes.Nodup) : (toggleBox index boxes).Nodup := by
  rw [toggleBox]
  split
  · exact nodup.erase index
  · rename_i absent
    refine List.nodup_append.mpr ⟨nodup, List.nodup_singleton index, fun a inBoxes b isIndex => ?_⟩
    obtain rfl := List.mem_singleton.mp isIndex
    rintro rfl
    exact absent (List.contains_iff_mem.mpr inBoxes)

/-- Toggling a box changes whether this box is in the list, and no other. -/
theorem contains_toggleBox (nodup : boxes.Nodup) :
    (toggleBox index boxes).contains other = (boxes.contains other ^^ (index == other)) := by
  rw [toggleBox]
  by_cases same : index = other
  · subst same
    rw [beq_self_eq_true, Bool.xor_true]
    by_cases present : index ∈ boxes
    · simp [present, nodup.not_mem_erase]
    · simp [present]
  · rw [beq_eq_false_iff_ne.mpr same, Bool.xor_false]
    split
    · simp [List.mem_erase_of_ne (Ne.symm same)]
    · simp [Ne.symm same]

/-- A box that was toggled twice is in the list iff it was before. -/
theorem toggleBox_toggleBox_perm (nodup : boxes.Nodup) :
    (toggleBox index (toggleBox index boxes)).Perm boxes := by
  have once := @nodup_toggleBox boxes index nodup
  rw [List.perm_ext_iff_of_nodup (nodup_toggleBox once) nodup]
  intro other
  rw [← List.contains_iff_mem, ← List.contains_iff_mem, contains_toggleBox once,
    contains_toggleBox nodup, Bool.xor_assoc, Bool.xor_self, Bool.xor_false]

end Lists

namespace Progress

variable {progress : Progress} {guide step index : Int}

/-! ## One change -/

theorem guide?_modify (change : GuideProgress → GuideProgress) (other : Int) :
    (progress.modify guide change).guide? other =
      if other = guide then some (change ((progress.guide? guide).getD .fresh))
      else progress.guide? other := by
  rw [modify, guide?, Table.lookup_insert]
  simp only [beq_iff_eq]
  rfl

theorem checked_setStep (guide' step' : Int) :
    (progress.setStep guide step).checked guide' step' = progress.checked guide' step' := by
  rw [setStep, checked, checked, guide?_modify]
  split
  · rename_i same
    subst same
    cases progress.guide? guide' <;> rfl
  · rfl

theorem checked_toggle (guide' step' : Int) :
    (progress.toggle guide step index).checked guide' step' =
      if guide' = guide ∧ step' = step then toggleBox index (progress.checked guide step)
      else progress.checked guide' step' := by
  rw [toggle, checked, checked, checked, guide?_modify]
  by_cases same : guide' = guide
  · subst same
    simp only [if_true, true_and, Option.bind_some, GuideProgress.toggle, Table.lookup_insert,
      beq_iff_eq]
    cases progress.guide? guide' with
    | none => split <;> simp [GuideProgress.fresh]
    | some own => split <;> simp
  · simp [same]

/-! ### The step of the reader -/

/-- The steps on record are those the reader is at. -/
theorem lookup_saved (guide : Int) : progress.saved.lookup guide = progress.step? guide := by
  obtain ⟨guides⟩ := progress
  rw [saved, step?, guide?]
  induction guides with
  | nil => rfl
  | cons entry rest ih =>
    obtain ⟨own, p⟩ := entry
    rw [List.map_cons, List.lookup_cons, List.lookup_cons]
    cases guide == own with
    | true => rfl
    | false => exact ih

theorem step?_setStep (other : Int) :
    (progress.setStep guide step).step? other =
      if other = guide then some (max step 0) else progress.step? other := by
  rw [step?, setStep, guide?_modify]
  split <;> rfl

/-- A guide that is named by a toggle for the first time is at its first step. -/
theorem step?_toggle (other : Int) :
    (progress.toggle guide step index).step? other =
      if other = guide then some ((progress.step? guide).getD 0) else progress.step? other := by
  rw [step?, toggle, guide?_modify]
  split
  · rw [step?]
    cases progress.guide? guide <;> rfl
  · rfl

section Named

/-! ### A guide on record -/

variable (named : (progress.step? guide).isSome)

include named

/-- A toggle in a guide that is on record moves the reader nowhere. -/
theorem step?_toggle_of_named (other : Int) :
    (progress.toggle guide step index).step? other = progress.step? other := by
  obtain ⟨reached, known⟩ := Option.isSome_iff_exists.mp named
  rw [step?_toggle]
  split
  · rename_i same
    rw [same, known]
    rfl
  · rfl

/-- A toggle in a guide that is on record changes nothing of the steps on record. -/
theorem saved_toggle_of_named : (progress.toggle guide step index).saved = progress.saved := by
  rw [step?, Option.isSome_map] at named
  obtain ⟨own, known⟩ := Option.isSome_iff_exists.mp named
  rw [toggle, modify, known]
  exact Table.map_insert_of_lookup GuideProgress.step known rfl

end Named

/-! ## Runs of changes -/

/-- The states that changes can lead to, from the one in which no guide has been named. -/
inductive Reachable : Progress → Prop
  | empty : Reachable .empty
  | setStep {progress : Progress} (reachable : Reachable progress) (guide step : Int) :
      Reachable (progress.setStep guide step)
  | toggle {progress : Progress} (reachable : Reachable progress) (guide step index : Int) :
      Reachable (progress.toggle guide step index)

/-- **No box is ever on record twice.** -/
theorem Reachable.nodup_checked (reachable : progress.Reachable) (guide step : Int) :
    (progress.checked guide step).Nodup := by
  induction reachable with
  | empty => exact List.nodup_nil
  | setStep _ _ _ ih => rwa [checked_setStep]
  | toggle _ _ _ _ ih =>
    rw [checked_toggle]
    split
    · rename_i same
      obtain ⟨rfl, rfl⟩ := same
      exact nodup_toggleBox ih
    · exact ih

/-- **A box that was toggled twice is checked iff it was before**, and so is every other box. -/
theorem Reachable.checked_toggle_toggle (reachable : progress.Reachable) (guide' step' : Int) :
    (((progress.toggle guide step index).toggle guide step index).checked guide' step').Perm
      (progress.checked guide' step') := by
  rw [checked_toggle]
  split
  · rename_i same
    obtain ⟨rfl, rfl⟩ := same
    rw [checked_toggle, if_pos ⟨rfl, rfl⟩]
    exact toggleBox_toggleBox_perm (reachable.nodup_checked guide' step')
  · rename_i elsewhere
    rw [checked_toggle, if_neg elsewhere]

/-- **The reader is never before the first step.** -/
theorem Reachable.step_nonneg (reachable : progress.Reachable) {guide reached : Int}
    (known : progress.step? guide = some reached) : 0 ≤ reached := by
  induction reachable generalizing reached with
  | empty => exact absurd known nofun
  | setStep _ _ step ih =>
    rw [step?_setStep] at known
    split at known
    · obtain rfl := Option.some.inj known
      exact Int.le_max_right step 0
    · exact ih known
  | @toggle before _ _ _ _ ih =>
    rw [step?_toggle] at known
    split at known
    · rename_i same
      subst same
      obtain rfl := Option.some.inj known
      cases named : before.step? guide with
      | none => exact Int.le_refl 0
      | some own => exact ih named
    · exact ih known

/-- The progress with boxes of one step toggled, one after the other. -/
def toggleAll (progress : Progress) (guide step : Int) (indices : List Int) : Progress :=
  indices.foldl (fun before index => before.toggle guide step index) progress

theorem toggleAll_cons (index : Int) (rest : List Int) :
    progress.toggleAll guide step (index :: rest) =
      (progress.toggle guide step index).toggleAll guide step rest := rfl

/-- Toggles in one step leave the other steps as they are. -/
theorem checked_toggleAll_of_ne {guide' step' : Int} (elsewhere : ¬(guide' = guide ∧ step' = step))
    (indices : List Int) :
    (progress.toggleAll guide step indices).checked guide' step' =
      progress.checked guide' step' := by
  induction indices generalizing progress with
  | nil => rfl
  | cons index rest ih => rw [toggleAll_cons, ih, checked_toggle, if_neg elsewhere]

/-- **A box is checked after some toggles as the parity of its toggles says.** -/
theorem contains_toggleAll (reachable : progress.Reachable) (indices : List Int) (other : Int) :
    ((progress.toggleAll guide step indices).checked guide step).contains other =
      ((progress.checked guide step).contains other ^^ decide (Odd (indices.count other))) := by
  induction indices generalizing progress with
  | nil => simp [toggleAll]
  | cons index rest ih =>
    rw [toggleAll_cons, ih (reachable.toggle guide step index), checked_toggle, if_pos ⟨rfl, rfl⟩,
      contains_toggleBox (reachable.nodup_checked guide step), Bool.xor_assoc, List.count_cons]
    refine congrArg _ ?_
    by_cases same : index = other
    · subst same
      rw [beq_self_eq_true, Bool.true_xor, if_pos rfl]
      simp only [Nat.odd_add_one, decide_not]
    · rw [beq_eq_false_iff_ne.mpr same, Bool.false_xor, if_neg Bool.false_ne_true, Nat.add_zero]

end Progress
end GuideMarkup
