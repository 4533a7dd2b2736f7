import GuideMarkup.Proofs.Toggling
import Mathlib.Data.List.Induction

/-!
# Proofs/History — a progress is what has happened to it

    boxes of a step    ↦  those toggled an odd number of times, by their last toggles
    step of a guide    ↦  the one last moved to, or the first one
    guides on record   ↦  those that some change names

A history of changes makes a progress out of the empty one (`Progress.replay`), and whatever this
progress is asked, the answer can be read off the history alone (`Progress.Recounts`).  One more
change keeps this true (`Progress.Recounts.append`).  Of the order of the boxes it does so because a
box that is checked again goes to the end of its step.
-/

namespace GuideMarkup

/-! ## Changes -/

/-- A change of a reader's progress. -/
inductive Change where
  /-- The reader is moved to a step. -/
  | setStep (guide step : Int)
  /-- A box is toggled. -/
  | toggle (guide step index : Int)
deriving DecidableEq, Repr

namespace Change

/-- The guide that a change names. -/
def guide : Change → Int
  | setStep guide _ | toggle guide _ _ => guide

/-- The step that a change moves the reader of a guide to. -/
def moved? (guide : Int) : Change → Option Int
  | setStep own step => if own = guide then some step else none
  | toggle .. => none

/-- The box that a change toggles in a step. -/
def toggled? (guide step : Int) : Change → Option Int
  | setStep .. => none
  | toggle own ownStep index => if guide = own ∧ step = ownStep then some index else none

/-- The progress after a change. -/
def apply (progress : Progress) : Change → Progress
  | setStep guide step => progress.setStep guide step
  | toggle guide step index => progress.toggle guide step index

theorem toggled?_eq_some_iff {change : Change} {guide step index : Int} :
    change.toggled? guide step = some index ↔ change = .toggle guide step index := by
  cases change with
  | setStep => simp [toggled?]
  | toggle own ownStep ownIndex =>
    simp only [toggled?, Option.ite_none_right_eq_some, Option.some.injEq, toggle.injEq]
    grind

theorem toggled?_eq_none_iff {change : Change} {guide step : Int} :
    change.toggled? guide step = none ↔ ∀ index, change ≠ .toggle guide step index := by
  simp only [Option.eq_none_iff_forall_ne_some, ne_eq, toggled?_eq_some_iff]

theorem moved?_of_ne {change : Change} {guide : Int} (elsewhere : change.guide ≠ guide) :
    change.moved? guide = none := by
  cases change with
  | setStep => exact if_neg elsewhere
  | toggle => rfl

end Change

/-- **The progress after a history of changes.** -/
def Progress.replay (history : List Change) : Progress :=
  history.foldl Change.apply .empty

theorem Progress.replay_append (history : List Change) (change : Change) :
    replay (history ++ [change]) = change.apply (replay history) := by
  rw [replay, List.foldl_append]
  rfl

/-! ## What a history says -/

/-- The last `a` of a list stands before the last `b`. -/
def LastBefore {α : Type} (a b : α) (l : List α) : Prop :=
  ∃ front back, l = front ++ a :: back ∧ a ∉ back ∧ b ∈ back

/-- The step that the reader has got to in a guide: the one of the last move, but none before the
first one; and the first one if the guide has been named by toggles only. -/
def reached? (guide : Int) (history : List Change) : Option Int :=
  if history.any (·.guide == guide) then
    some (max ((history.filterMap (Change.moved? guide)).getLast?.getD 0) 0)
  else none

/-- **The progress answers all questions as the history does.** -/
structure Progress.Recounts (progress : Progress) (history : List Change) : Prop where
  /-- A box is checked if it was toggled an odd number of times. -/
  mem_checked : ∀ guide step index, index ∈ progress.checked guide step ↔
    Odd (history.count (.toggle guide step index))
  nodup_checked : ∀ guide step, (progress.checked guide step).Nodup
  /-- The boxes stand in the order of their last toggles. -/
  pairwise_checked : ∀ guide step, (progress.checked guide step).Pairwise fun index other =>
    LastBefore (.toggle guide step index) (.toggle guide step other) history
  step?_eq : ∀ guide, progress.step? guide = reached? guide history
  /-- No guide is on record twice. -/
  distinct_saved : progress.saved.Distinct
  mem_saved : ∀ guide step, (guide, step) ∈ progress.saved ↔ reached? guide history = some step

/-! ## The order of last toggles -/

section Order

variable {α : Type} {a b c : α} {l : List α}

/-- What comes behind a list does not change the order of others than itself. -/
theorem LastBefore.append (before : LastBefore a b l) (other : c ≠ a) :
    LastBefore a b (l ++ [c]) := by
  obtain ⟨front, back, rfl, absent, member⟩ := before
  refine ⟨front, back ++ [c], by simp, ?_, List.mem_append_left _ member⟩
  simpa [absent] using other.symm

/-- What comes behind a list is last of all. -/
theorem lastBefore_append_self (member : a ∈ l) (other : a ≠ b) : LastBefore a b (l ++ [b]) := by
  obtain ⟨back, front, split, absent⟩ := List.eq_append_cons_of_mem (List.mem_reverse.mpr member)
  have split : l = front.reverse ++ a :: back.reverse := by
    rw [← List.reverse_reverse l, split]
    simp
  refine ⟨front.reverse, back.reverse ++ [b], by simp [split], ?_, by simp⟩
  simpa [absent] using other

end Order

/-- Toggling a box keeps an order of the others in which this box comes last. -/
theorem pairwise_toggleBox {R R' : Int → Int → Prop} {boxes : List Int} {index : Int}
    (nodup : boxes.Nodup) (ordered : boxes.Pairwise R) (keeps : ∀ a b, a ≠ index → R a b → R' a b)
    (last : ∀ a ∈ boxes, a ≠ index → R' a index) : (toggleBox index boxes).Pairwise R' := by
  rw [toggleBox]
  split
  · refine (ordered.erase index).imp_of_mem fun inRest _ before => keeps _ _ ?_ before
    exact (nodup.mem_erase_iff.mp inRest).1
  · rename_i absent
    have other : ∀ a ∈ boxes, a ≠ index := by
      rintro a member rfl
      exact absent (List.contains_iff_mem.mpr member)
    refine List.pairwise_append.mpr ⟨?_, List.pairwise_singleton _ _, fun a member b isIndex => ?_⟩
    · exact ordered.imp_of_mem fun member _ before => keeps _ _ (other _ member) before
    · obtain rfl := List.mem_singleton.mp isIndex
      exact last a member (other a member)

/-! ## One more change -/

section OneMore

variable {progress : Progress} {history : List Change} (change : Change)

theorem Progress.checked_apply (guide step : Int) : (change.apply progress).checked guide step =
    match change.toggled? guide step with
    | some index => toggleBox index (progress.checked guide step)
    | none => progress.checked guide step := by
  cases change with
  | setStep own ownStep => exact checked_setStep guide step
  | toggle own ownStep index =>
    rw [Change.apply, checked_toggle, Change.toggled?]
    split
    · rename_i same
      obtain ⟨rfl, rfl⟩ := same
      rfl
    · rfl

theorem Progress.step?_apply (guide : Int) : (change.apply progress).step? guide =
    if guide = change.guide then
      some (((change.moved? guide).map (max · 0)).getD ((progress.step? guide).getD 0))
    else progress.step? guide := by
  cases change with
  | setStep own ownStep =>
    rw [Change.apply, step?_setStep, Change.moved?, Change.guide]
    split
    · rename_i same
      rw [if_pos same.symm]
      rfl
    · rfl
  | toggle own ownStep index =>
    rw [Change.apply, step?_toggle, Change.moved?, Change.guide]
    split
    · rename_i same
      rw [same]
      rfl
    · rfl

theorem reached?_append (guide : Int) : reached? guide (history ++ [change]) =
    if guide = change.guide then
      some (((change.moved? guide).map (max · 0)).getD ((reached? guide history).getD 0))
    else reached? guide history := by
  rw [reached?, reached?, List.any_append, List.filterMap_append]
  by_cases named : change.guide = guide
  · rw [if_pos named.symm, if_pos (by simp [named])]
    cases moved : change.moved? guide with
    | some step => simp [moved]
    | none =>
      rw [List.filterMap_cons_none moved, List.filterMap_nil, List.append_nil]
      split
      · rfl
      · rename_i unnamed
        have still : history.filterMap (Change.moved? guide) = [] := by
          refine List.filterMap_eq_nil_iff.mpr fun old member => Change.moved?_of_ne fun own => ?_
          exact unnamed (List.any_eq_true.mpr ⟨old, member, by simp [own]⟩)
        rw [still]
        rfl
  · rw [if_neg (Ne.symm named), List.filterMap_cons_none (Change.moved?_of_ne named),
      List.filterMap_nil, List.append_nil]
    simp [named]

namespace Progress.Recounts

variable (recounts : progress.Recounts history)

include recounts

theorem mem_checked_append (guide step index : Int) :
    index ∈ (change.apply progress).checked guide step ↔
      Odd ((history ++ [change]).count (.toggle guide step index)) := by
  have before := recounts.mem_checked guide step index
  rw [checked_apply, List.count_append, List.count_singleton]
  split
  · rename_i toggled isToggle
    rw [Change.toggled?_eq_some_iff] at isToggle
    have toggles := @contains_toggleBox _ toggled index (recounts.nodup_checked guide step)
    rw [← List.contains_iff_mem] at before ⊢
    rw [toggles, isToggle]
    by_cases same : toggled = index
    · rw [same, beq_self_eq_true, Bool.xor_true, Bool.not_eq_true', if_pos (beq_self_eq_true _),
        Nat.odd_add_one, ← before, Bool.not_eq_true]
    · rw [beq_eq_false_iff_ne.mpr same, Bool.xor_false, if_neg (by simpa using same)]
      exact before
  · rename_i noToggle
    have other := Change.toggled?_eq_none_iff.mp noToggle index
    rw [if_neg (by simpa using other)]
    exact before

theorem pairwise_checked_append (guide step : Int) :
    ((change.apply progress).checked guide step).Pairwise fun index other =>
      LastBefore (.toggle guide step index) (.toggle guide step other) (history ++ [change]) := by
  have ordered := recounts.pairwise_checked guide step
  rw [checked_apply]
  split
  · rename_i toggled isToggle
    rw [Change.toggled?_eq_some_iff] at isToggle
    rw [isToggle]
    refine pairwise_toggleBox (recounts.nodup_checked guide step) ordered
      (fun a b other before => before.append ?_) fun a checked other => lastBefore_append_self ?_ ?_
    · simpa using other.symm
    · obtain ⟨half, odd⟩ := (recounts.mem_checked guide step a).mp checked
      exact List.count_pos_iff.mp (by omega)
    · simpa using other
  · rename_i noToggle
    exact ordered.imp fun before => before.append (Change.toggled?_eq_none_iff.mp noToggle _)

theorem step?_append (guide : Int) :
    (change.apply progress).step? guide = reached? guide (history ++ [change]) := by
  rw [step?_apply, reached?_append, recounts.step?_eq]

end Progress.Recounts

theorem Progress.distinct_saved_iff : progress.saved.Distinct ↔ progress.guides.Distinct := by
  rw [Table.distinct_iff, Table.distinct_iff, saved, List.map_map]
  rfl

/-- A change puts its guide on record once. -/
theorem Progress.distinct_saved_apply (distinct : progress.saved.Distinct) :
    (change.apply progress).saved.Distinct := by
  rw [distinct_saved_iff] at distinct ⊢
  cases change <;> exact distinct.insert _ _

/-- **One more change is answered for by both sides alike.** -/
theorem Progress.Recounts.append (recounts : progress.Recounts history) :
    (change.apply progress).Recounts (history ++ [change]) where
  mem_checked := recounts.mem_checked_append change
  nodup_checked guide step := by
    rw [checked_apply]
    split
    · exact nodup_toggleBox (recounts.nodup_checked guide step)
    · exact recounts.nodup_checked guide step
  pairwise_checked := recounts.pairwise_checked_append change
  step?_eq := recounts.step?_append change
  distinct_saved := distinct_saved_apply change recounts.distinct_saved
  mem_saved guide step := by
    rw [(distinct_saved_apply change recounts.distinct_saved).mem_iff_lookup, lookup_saved,
      recounts.step?_append]

end OneMore

/-! ## Histories -/

theorem Progress.recounts_empty : empty.Recounts [] where
  mem_checked _ _ _ := by simp [checked, guide?, empty]
  nodup_checked _ _ := List.nodup_nil
  pairwise_checked _ _ := .nil
  step?_eq _ := rfl
  distinct_saved := .nil
  mem_saved _ _ := by simp [saved, empty, reached?]

/-- The progresses that changes can lead to are those that some history makes. -/
theorem Progress.reachable_iff_exists_replay {progress : Progress} :
    progress.Reachable ↔ ∃ history, replay history = progress := by
  constructor
  · intro reachable
    induction reachable with
    | empty => exact ⟨[], rfl⟩
    | setStep _ guide step ih =>
      obtain ⟨history, rfl⟩ := ih
      exact ⟨history ++ [.setStep guide step], replay_append history _⟩
    | toggle _ guide step index ih =>
      obtain ⟨history, rfl⟩ := ih
      exact ⟨history ++ [.toggle guide step index], replay_append history _⟩
  · rintro ⟨history, rfl⟩
    induction history using List.reverseRecOn with
    | nil => exact .empty
    | append_singleton history change ih =>
      rw [replay_append]
      cases change with
      | setStep guide step => exact ih.setStep guide step
      | toggle guide step index => exact ih.toggle guide step index

/-- **A progress is what has happened to it**: after any history of changes it answers all questions
as the history does. -/
theorem Progress.recounts_replay (history : List Change) : (replay history).Recounts history := by
  induction history using List.reverseRecOn with
  | nil => exact recounts_empty
  | append_singleton history change ih =>
    rw [replay_append]
    exact ih.append change

/-- A box that is checked again goes to the end, and a box that was toggled twice is not checked. -/
example : (Progress.replay [.toggle 5 0 2, .toggle 5 0 1, .toggle 5 0 7, .toggle 5 0 2,
    .toggle 5 0 7, .toggle 5 0 2]).checked 5 0 = [1, 2] := by
  rfl

end GuideMarkup
