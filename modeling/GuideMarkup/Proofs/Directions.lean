import GuideMarkup.Gesture
import GuideMarkup.Proofs.Occurrence

/-!
# Proofs/Directions — where the links of a tree lead

    the guide being read   ↦  navigate
    an available guide     ↦  navigate
    any other guide        ↦  download · navigate

A tree is rendered in a setting: the guides that are available, and the guide being read.  Its
links lead to steps that there are, as far as the setting knows (`Setting.HasStep`), and ask for a
download just if the guide is not at hand (`Setting.Lacks`).  The step is moved into range wherever
it comes from, provided that the reader has not got to a step before the first one.
-/

namespace GuideMarkup

variable {ctx : Context} {keys : Modifiers} {platform : Platform}

/-! ## Settings -/

/-- What a tree is rendered in. -/
structure Setting where
  /-- The available guides. -/
  registry : Registry
  /-- The guide being read. -/
  guide : Option Int

namespace Setting

variable {setting : Setting}

/-- The guide has the step, as far as its number of steps is known. -/
def HasStep (setting : Setting) (guide step : Int) : Prop :=
  0 ≤ step ∧ ∀ info count, setting.registry.lookup guide = some info →
    info.stepCount = .number count → 0 < count → step < count

/-- The guide is not available, nor is it the one being read. -/
def Lacks (setting : Setting) (guide : Int) : Prop :=
  setting.registry.lookup guide = none ∧ setting.guide ≠ some guide

/-- **The intents lead only to steps that there are**, and ask for a guide right before leading to
it, just if it is not at hand. -/
structure Directs (setting : Setting) (intents : List Intent) : Prop where
  hasStep : ∀ guide step, .navigate guide step ∈ intents → setting.HasStep guide step
  lacking : ∀ guide step, .navigate guide step ∈ intents → setting.Lacks guide →
    intents = [.download guide, .navigate guide step]
  atHand : ∀ guide step, .navigate guide step ∈ intents → ¬setting.Lacks guide →
    intents = [.navigate guide step]
  /-- Nothing else asks for a guide. -/
  leading : ∀ guide, .download guide ∈ intents → ∃ step, .navigate guide step ∈ intents

end Setting

/-- The context is one of a setting, and the reader has got to no step before the first one. -/
structure Context.IsIn (ctx : Context) (setting : Setting) : Prop where
  guide : ctx.guide = setting.guide.map .number
  registry : ctx.registry = some setting.registry
  saved : ∀ table guide step, ctx.saved = some table → table.lookup guide = some step → 0 ≤ step

/-! ## Step numbers in range -/

/-- A step number, counted from one, is in range of a number of steps that may be known. -/
def InRange (total : Option Int) (number : Int) : Prop :=
  1 ≤ number ∧ ∀ count, total = some count → number ≤ count

section Ranges

variable {total : Option Int} (positive : ∀ count, total = some count → 0 < count)

include positive

theorem inRange_boundedStep (number : Int) : InRange total (boundedStep number total) := by
  cases total with
  | none => exact ⟨Int.le_max_right number 1, nofun⟩
  | some count =>
    have := positive count rfl
    rw [boundedStep, clamp]
    refine ⟨by omega, fun _ same => ?_⟩
    obtain rfl := Option.some.inj same
    exact Int.min_le_right _ _

theorem inRange_resumedStep {saved : Int} (nonneg : 0 ≤ saved) :
    InRange total (resumedStep saved total) := by
  rw [resumedStep, clamp]
  cases total with
  | none =>
    refine ⟨?_, nofun⟩
    simp only [Option.getD_none]
    omega
  | some count =>
    have := positive count rfl
    simp only [Option.getD_some]
    refine ⟨by omega, fun _ same => ?_⟩
    obtain rfl := Option.some.inj same
    exact Int.min_le_right _ _

/-- The number of the step that a reference leads to, where the reader may have reached one. -/
def chosenStep (number : Int) (total : Option Int) : Option Int → Int
  | some reached => resumedStep reached total
  | none => boundedStep number total

theorem inRange_chosenStep (number : Int) {saved : Option Int}
    (nonneg : ∀ reached, saved = some reached → 0 ≤ reached) :
    InRange total (chosenStep number total saved) := by
  cases saved with
  | none => exact inRange_boundedStep positive number
  | some reached => exact inRange_resumedStep positive (nonneg reached rfl)

end Ranges

/-- The number of steps that is known of a guide is the one that was given, if it is positive. -/
theorem GuideInfo.knownSteps_eq {info : GuideInfo} {total : Option Int}
    (counted : info.knownSteps = .ok total) {count : Int} :
    total = some count ↔ info.stepCount = .number count ∧ 0 < count := by
  rw [knownSteps] at counted
  obtain ⟨own, given, counted⟩ := exists_ok_of_bind counted
  cases stepCount : info.stepCount with
  | blank =>
    rw [stepCount] at given
    exact absurd given nofun
  | number known =>
    rw [stepCount] at given
    obtain rfl := Except.ok.inj given
    obtain rfl := Except.ok.inj counted
    split <;> grind

/-! ## Targets -/

namespace Context

/-- **What a reference comes to**: the guide, what is known of it, and the step that is chosen. -/
theorem target_of_stepTarget? {guide number : Int} {stepId : Option Int} {target : StepTarget}
    (leads : ctx.stepTarget? guide number stepId = .ok (some target)) :
    ∃ own info total saved, ctx.targetGuide? guide = some (.number own) ∧
      ctx.guideInfo (some (.number own)) = .ok info ∧ totalSteps info = .ok total ∧
      (∀ reached, saved = some reached → ctx.savedStep own = .ok (some reached)) ∧
      target = ⟨own, chosenStep number total saved - 1, ctx.isSameGuide guide,
        !ctx.isSameGuide guide && info.isNone⟩ := by
  rw [stepTarget?] at leads
  split at leads
  · exact absurd leads nofun
  rename_i entry there
  obtain ⟨info, known, leads⟩ := exists_ok_of_bind leads
  obtain ⟨own, isNumber, leads⟩ := exists_ok_of_bind leads
  obtain ⟨total, counted, leads⟩ := exists_ok_of_bind leads
  have number : entry = .number own := by
    cases entry with
    | blank => exact absurd isNumber nofun
    | number n => exact congrArg _ (Except.ok.inj isNumber)
  rw [number] at there known
  simp only at leads
  split at leads
  · obtain ⟨saved, asked, leads⟩ := exists_ok_of_bind leads
    refine ⟨own, info, total, saved, there, known, counted, ?_, ?_⟩
    · exact fun reached isSaved => by rw [asked, isSaved]
    · rw [← Option.some.inj (Except.ok.inj leads)]
      cases saved <;> rfl
  · exact ⟨own, info, total, none, there, known, counted, nofun,
      (Option.some.inj (Except.ok.inj leads)).symm⟩

/-- A reference is to the guide being read just if that is its target. -/
theorem isSameGuide_iff {guide target : Int}
    (there : ctx.targetGuide? guide = some (.number target)) :
    ctx.isSameGuide guide = true ↔ ctx.guide = some (.number target) := by
  rw [targetGuide?] at there
  rw [isSameGuide, Bool.or_eq_true, beq_iff_eq, beq_iff_eq]
  split at there
  · rename_i mark
    exact ⟨fun _ => there, fun _ => Or.inr mark⟩
  · rename_i other
    obtain rfl : guide = target := by simpa using there
    exact ⟨fun same => same.resolve_right other, Or.inl⟩

theorem guideInfo_number {registry : Registry} (known : ctx.registry = some registry)
    (guide : Int) : ctx.guideInfo (some (.number guide)) = .ok (registry.lookup guide) := by
  rw [guideInfo, known]
  rfl

theorem guide_eq_number_iff {reading : Option Int} (known : ctx.guide = reading.map .number)
    (guide : Int) : ctx.guide = some (.number guide) ↔ reading = some guide := by
  rw [known]
  cases reading <;> simp

end Context

/-- **A target in a setting.** -/
structure StepTarget.IsIn (target : StepTarget) (setting : Setting) : Prop where
  hasStep : setting.HasStep target.guide target.step
  same : target.sameGuide = true ↔ setting.guide = some target.guide
  download : target.needsDownload = true ↔ setting.Lacks target.guide

namespace Context.IsIn

variable {setting : Setting}

theorem guideInfo (isIn : ctx.IsIn setting) (guide : Int) :
    ctx.guideInfo (some (.number guide)) = .ok (setting.registry.lookup guide) :=
  guideInfo_number isIn.registry guide

theorem guide_eq_iff (isIn : ctx.IsIn setting) (guide : Int) :
    ctx.guide = some (.number guide) ↔ setting.guide = some guide :=
  guide_eq_number_iff isIn.guide guide

/-- A step that the reader is known to have reached is not before the first one. -/
theorem savedStep_nonneg (isIn : ctx.IsIn setting) {guide reached : Int}
    (known : ctx.savedStep guide = .ok (some reached)) : 0 ≤ reached := by
  obtain ⟨table, there, found⟩ := exists_ok_of_bind known
  exact isIn.saved table guide reached (need_eq_ok_iff.mp there) (Except.ok.inj found)

/-- **A reference leads to a target in the setting.** -/
theorem stepTarget? (isIn : ctx.IsIn setting) {guide number : Int} {stepId : Option Int}
    {target : StepTarget} (leads : ctx.stepTarget? guide number stepId = .ok (some target)) :
    target.IsIn setting := by
  obtain ⟨own, info, total, saved, there, known, counted, reached, rfl⟩ :=
    target_of_stepTarget? leads
  rw [isIn.guideInfo] at known
  have steps : ∀ info, setting.registry.lookup own = some info → info.knownSteps = .ok total :=
    fun info found => by
      rw [found] at known
      rwa [← Except.ok.inj known] at counted
  have positive : ∀ count, total = some count → 0 < count := by
    intro count isTotal
    cases info with
    | none => exact absurd (isTotal.symm.trans (Except.ok.inj counted).symm) nofun
    | some info => exact ((GuideInfo.knownSteps_eq counted).mp isTotal).2
  have inRange := inRange_chosenStep positive number fun step isSaved =>
    isIn.savedStep_nonneg (reached step isSaved)
  have same := (isSameGuide_iff there).trans (isIn.guide_eq_iff own)
  refine ⟨⟨Int.sub_nonneg_of_le inRange.1, fun info count found given pos => ?_⟩, same, ?_⟩
  · have isTotal := (GuideInfo.knownSteps_eq (steps info found)).mpr ⟨given, pos⟩
    exact Int.sub_one_lt_of_le (inRange.2 count isTotal)
  · rw [Bool.and_eq_true, Bool.not_eq_true', Option.isNone_iff_eq_none, ← Bool.not_eq_true, same,
      and_comm, ← Except.ok.inj known]
    rfl

theorem reference? (isIn : ctx.IsIn setting) {tag : Tag} {target : StepTarget}
    (leads : ctx.reference? tag = .ok (some target)) : target.IsIn setting := by
  rw [Context.reference?] at leads
  obtain ⟨guide, -, leads⟩ := exists_ok_of_bind leads
  obtain ⟨number, -, leads⟩ := exists_ok_of_bind leads
  split at leads
  · obtain ⟨stepId, -, leads⟩ := exists_ok_of_bind leads
    exact isIn.stepTarget? leads
  · exact absurd leads nofun

end Context.IsIn

/-! ## Contents -/

namespace Content

/-- A link leads to a step of the setting; other contents lead nowhere. -/
def LeadsIn (setting : Setting) : Content → Prop
  | .sameGuide link =>
    setting.guide = some link.guide ∧ setting.HasStep link.guide link.step
  | .crossGuide cross =>
    (cross.needsDownload = true ↔ setting.Lacks cross.link.guide) ∧
      setting.HasStep cross.link.guide cross.link.step
  | _ => True

end Content

section Contents

variable {setting : Setting} {content : Content}

/-- What a link shows leads into the setting of its target. -/
theorem leadsIn_linkContent {target : StepTarget} (isIn : target.IsIn setting)
    (defaultIcon : Bool) : (ctx.linkContent target defaultIcon).LeadsIn setting := by
  rw [Context.linkContent]
  split
  · rename_i same
    exact ⟨isIn.same.mp same, isIn.hasStep⟩
  · exact ⟨isIn.download, isIn.hasStep⟩

/-- **Whatever can occur leads into the setting.** -/
theorem leadsIn_of_occurs (isIn : ctx.IsIn setting) (occurs : Occurs ctx content) :
    content.LeadsIn setting := by
  cases occurs with
  | text inText => cases inText <;> trivial
  | element tag => trivial
  | box made => trivial
  | shown shows =>
    cases shows with
    | link role target leads marked icon => exact leadsIn_linkContent (isIn.reference? leads) _
    | _ => trivial

/-! ## Gestures -/

/-- The intent is part of a journey to a step. -/
def Intent.travels : Intent → Bool
  | .navigate _ _ | .download _ => true
  | _ => false

theorem ResourceTag.travels_of_mem_intents {tag : ResourceTag} {intent : Intent}
    (member : intent ∈ tag.intents keys platform) : intent.travels = false := by
  rw [intents] at member
  split at member
  · rw [openMapped, Option.mem_toList, Option.map_eq_some_iff] at member
    obtain ⟨url, -, rfl⟩ := member
    rfl
  · obtain rfl := List.mem_singleton.mp member
    rw [openDatabase]
    split
    · cases tag.databaseUrl.filter (!·.isEmpty) <;> rfl
    · rfl

/-- Only links lead to steps. -/
theorem Content.travels_of_mem_gesture {intent : Intent} (same : ∀ link, content ≠ .sameGuide link)
    (cross : ∀ cross, content ≠ .crossGuide cross)
    (member : intent ∈ content.gesture keys platform) : intent.travels = false := by
  cases content with
  | sameGuide link => exact absurd rfl (same link)
  | crossGuide link => exact absurd rfl (cross link)
  | resource tag => exact ResourceTag.travels_of_mem_intents member
  | position token =>
    obtain rfl := List.mem_singleton.mp member
    rfl
  | image ref =>
    rw [gesture] at member
    split at member
    · obtain rfl := List.mem_singleton.mp member
      rfl
    · exact absurd member List.not_mem_nil
  | anchor link =>
    rw [gesture] at member
    split at member
    · obtain rfl := List.mem_singleton.mp member
      rfl
    · exact absurd member List.not_mem_nil
  | checkbox box =>
    rw [gesture, Checkbox.intents] at member
    split at member
    · obtain rfl := List.mem_singleton.mp member
      rfl
    · exact absurd member List.not_mem_nil
  | _ => exact absurd member List.not_mem_nil

namespace Setting

theorem directs_nil : setting.Directs [] :=
  ⟨nofun, nofun, nofun, nofun⟩

theorem directs_of_travels {intents : List Intent}
    (stays : ∀ intent ∈ intents, intent.travels = false) : setting.Directs intents where
  hasStep _ _ member := absurd (stays _ member) nofun
  lacking _ _ member := absurd (stays _ member) nofun
  atHand _ _ member := absurd (stays _ member) nofun
  leading _ member := absurd (stays _ member) nofun

theorem directs_navigate {guide step : Int} (hasStep : setting.HasStep guide step)
    (atHand : ¬setting.Lacks guide) : setting.Directs [.navigate guide step] where
  hasStep _ _ member := by
    obtain ⟨⟩ := List.mem_singleton.mp member
    exact hasStep
  lacking _ _ member lacks := by
    obtain ⟨⟩ := List.mem_singleton.mp member
    exact absurd lacks atHand
  atHand _ _ member _ := by
    obtain ⟨⟩ := List.mem_singleton.mp member
    rfl
  leading _ member := absurd (List.mem_singleton.mp member) nofun

theorem directs_download {guide step : Int} (hasStep : setting.HasStep guide step)
    (lacks : setting.Lacks guide) : setting.Directs [.download guide, .navigate guide step] where
  hasStep guide' step' member := by
    obtain ⟨rfl, rfl⟩ : guide' = guide ∧ step' = step := by simpa using member
    exact hasStep
  lacking guide' step' member _ := by
    obtain ⟨rfl, rfl⟩ : guide' = guide ∧ step' = step := by simpa using member
    rfl
  atHand guide' step' member atHand := by
    obtain ⟨rfl, rfl⟩ : guide' = guide ∧ step' = step := by simpa using member
    exact absurd lacks atHand
  leading guide' member := by
    obtain rfl : guide' = guide := by simpa using member
    exact ⟨step, List.mem_cons_of_mem _ List.mem_cons_self⟩

end Setting

/-- **What leads into a setting directs its gestures there.** -/
theorem Content.LeadsIn.directs (leads : content.LeadsIn setting) (keys : Modifiers)
    (platform : Platform) : setting.Directs (content.intents keys platform) := by
  rw [intents]
  split
  · cases content with
    | sameGuide link =>
      obtain ⟨reading, hasStep⟩ := leads
      exact Setting.directs_navigate hasStep fun lacks => lacks.2 reading
    | crossGuide cross =>
      obtain ⟨needs, hasStep⟩ := leads
      rw [gesture, CrossLink.intents]
      split
      · exact Setting.directs_nil
      · split
        · rename_i download
          exact Setting.directs_download hasStep (needs.mp download)
        · rename_i atHand
          exact Setting.directs_navigate hasStep fun lacks => atHand (needs.mpr lacks)
    | _ => exact Setting.directs_of_travels fun _ => travels_of_mem_gesture (by simp) (by simp)
  · exact Setting.directs_nil

end Contents

/-! ## Trees -/

/-- **A tree that is rendered in a setting leads into it.** -/
theorem everywhere_leadsIn_transform {rules : List Rule} {setting : Setting}
    (isIn : ctx.IsIn setting) (document : Markup) (start : Int) :
    Node.Everywhere (·.LeadsIn setting) [(transform rules ctx document start).1] :=
  ((kept_occurs rules ctx).transformNode [] [] document (Pass.start start)).imp fun _ occurs =>
    leadsIn_of_occurs isIn occurs

end GuideMarkup
