import GuideMarkup.Activation
import GuideMarkup.Proofs.Occurrence

/-!
# Proofs/Disabling — a disabled document does not react

    context  ──flag──▸  every content that reacts  ──▸  no intents, nothing carried out

The flag of the context reaches every content that has a place for it, on every way on which
contents come about (`carries_of_occurs`).  Boxes have no such place: one is interactive in a step
of a guide, unless the context is disabled.
-/

namespace GuideMarkup

variable {rules : List Rule} {ctx : Context}

/-! ## Contents that carry the flag -/

/-- **The content carries the flag**, if it has a place for it; a box is interactive just if it
belongs to a guide and the flag is not set. -/
def Content.Carries (disabled : Bool) : Content → Prop
  | .position token => token.disabled = disabled
  | .sameGuide link => link.disabled = disabled
  | .crossGuide cross => cross.link.disabled = disabled
  | .resource tag => tag.disabled = disabled
  | .image ref => ref.disabled = disabled
  | .anchor link => link.disabled = disabled
  | .checkbox box => box.interactive = (box.guide.isSome && !disabled)
  | .plain _ _ _ | .hiddenLink _ | .lineBreak | .dropped | .bare | .flattened | .quest _ => True

namespace Context

theorem disabled_of_resourceTag {tag : Tag} {kind : ResourceKind} {made : ResourceTag}
    (builds : ctx.resourceTag tag kind = .ok made) : made.disabled = ctx.disabled := by
  simp only [resourceTag] at builds
  split at builds
  all_goals
    obtain ⟨mappedUrl, -, builds⟩ := exists_ok_of_bind builds
    obtain ⟨databaseUrl, -, builds⟩ := exists_ok_of_bind builds
    obtain rfl := Except.ok.inj builds
    rfl

theorem carries_linkContent (target : StepTarget) (defaultIcon : Bool) :
    (ctx.linkContent target defaultIcon).Carries ctx.disabled := by
  rw [linkContent]
  split <;> rfl

theorem carries_checkbox {index : Int} {box : Checkbox} (made : ctx.checkbox index = .ok box) :
    (Content.checkbox box).Carries ctx.disabled := by
  rw [checkbox] at made
  split at made
  · rename_i within
    have inGuide : ctx.guide.isSome = true := (Bool.and_eq_true_iff.mp within).1
    obtain ⟨checked, -, made⟩ := exists_ok_of_bind made
    obtain rfl := Except.ok.inj made
    simp [Content.Carries, inGuide]
  · obtain rfl := Except.ok.inj made
    rfl

end Context

theorem Links.disabled_of_image {links : Links} {disabled : Bool} {tag : Tag} {ref : ImageRef}
    (made : links.image disabled tag = .ok ref) : ref.disabled = disabled := by
  rw [image] at made
  obtain ⟨proxied, -, made⟩ := exists_ok_of_bind made
  obtain rfl := Except.ok.inj made
  rfl

theorem carries_of_shows {site : Site} {scope : Scope} {content : Content}
    (shows : Shows ctx site scope content) : content.Carries ctx.disabled := by
  cases shows with
  | link role target leads marked icon => exact Context.carries_linkContent target _
  | resource role kind known tag made => exact Context.disabled_of_resourceTag made
  | image name ref made => exact Links.disabled_of_image made
  | anchor name accepted => rfl
  | _ => trivial

/-- **Whatever can occur carries the flag of the context.** -/
theorem carries_of_occurs {content : Content} (occurs : Occurs ctx content) :
    content.Carries ctx.disabled := by
  cases occurs with
  | text inText => cases inText <;> trivial
  | element tag => trivial
  | shown shows => exact carries_of_shows shows
  | box made => exact Context.carries_checkbox made

/-! ## Gestures -/

/-- **What carries the flag, and that set, emits nothing.** -/
theorem Content.intents_of_carries {content : Content} (carries : content.Carries true)
    (keys : Modifiers) (platform : Platform) : content.intents keys platform = [] := by
  rw [intents]
  cases content with
  | checkbox box =>
    have idle : box.interactive = false := by simpa [Carries] using carries
    simp [isActivatable, gesture, Checkbox.intents, idle]
  | _ => simp_all [isActivatable, Carries]

/-! ## Trees -/

/-- **A disabled document does not react**, whatever its tables lack and whatever rules fail: no
gesture on any node emits an intent, and no activation reaches the host or changes the node. -/
theorem inert_of_disabled (disabled : ctx.disabled = true) {document : Markup} {start : Int}
    {node : Node} (member : node ∈ (transform rules ctx document start).1.walk) (keys : Modifiers)
    (platform : Platform) :
    node.content.intents keys platform = [] ∧
      ∀ {σ : Type} (messages : Messages) (handler : Handler σ) (state : σ),
        activate messages platform handler node.content keys state =
          (.ok ⟨[], none⟩, node.content, state) := by
  have carries := carries_of_occurs (occurs_of_mem_walk member)
  rw [disabled] at carries
  have silent := Content.intents_of_carries carries keys platform
  refine ⟨silent, fun messages handler state => ?_⟩
  rw [activate, silent]

/-! ### A box in a link that cannot be judged -/

/-- A disabled step of a guide without a whitelist. -/
def Context.halted : Context :=
  { preview with
    whitelist := none, guide := some (.number 1), step := some (.number 0), disabled := true }

/-- A box in a link to somewhere. -/
def linkedStop : Markup :=
  .element ⟨"a", [("href", "https://a.org/x")]⟩ [.element ⟨"input", [("type", "checkbox")]⟩ []]

/-- The box, as it is shown there. -/
def stoppedBox : Node :=
  Node.leaf (.checkbox ⟨0, false, false, some (.number 1), some (.number 0)⟩)

/-- The rule of anchors fails, and the box in the link does not react. -/
theorem inert_of_disabled_stoppedBox :
    Context.halted.disabled = true ∧
      (transform Rule.standard .halted linkedStop 0).2.fallbacks = 1 ∧
      stoppedBox ∈ (transform Rule.standard .halted linkedStop 0).1.walk ∧
      stoppedBox.content.intents ⟨true, true, true, true⟩ ⟨true⟩ = [] := by
  have walk : (transform Rule.standard .halted linkedStop 0).1.walk =
      [.mk (.plain (some "a") [("href", "https://a.org/x")] none) [stoppedBox], stoppedBox] := by
    rfl
  have member : stoppedBox ∈ (transform Rule.standard .halted linkedStop 0).1.walk := by
    rw [walk]
    exact List.mem_cons_of_mem _ List.mem_cons_self
  exact ⟨rfl, rfl, member, (inert_of_disabled rfl member ⟨true, true, true, true⟩ ⟨true⟩).1⟩

end GuideMarkup
