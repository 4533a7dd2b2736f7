import GuideMarkup.Proofs.Directions
import GuideMarkup.Proofs.Persistence
import GuideMarkup.Proofs.Protocol
import GuideMarkup.Proofs.Toggling
import GuideMarkup.Session

/-!
# Proofs/Journey — the links of a session lead to steps that there are

    toggle · set step · register · render · activate        in any order, as often as you like

A session is followed together with all the trees that it has rendered, each with the setting of its
rendering (`Session.Reached`).  Two things hold throughout (`Session.Sound`): the progress of the
reader is one that changes of progress lead to, so that no step is negative, and every tree leads
into its own setting.  Activating a node changes neither what it leads to nor, as long as the
handler goes through these changes itself, that the progress is such a one.
-/

namespace GuideMarkup

variable {σ : Type} {handler : Handler (Progress × σ)}

/-! ## Sessions -/

/-- A tree that was rendered, as it is by now, and what it was rendered in. -/
structure Showing where
  setting : Setting
  tree : Node

namespace Session

/-- The tree on the screen, if there is one, with the setting of its rendering. -/
def onScreen (session : Session) (setting : Setting) : List Showing :=
  session.tree.toList.map fun tree => ⟨setting, tree⟩

/-- **The sessions that a reader gets to**, with the state of the handler and all trees that have
been rendered on the way.  Any of these trees can be brought back and have a node activated. -/
inductive Reached (handler : Handler (Progress × σ)) : Session → σ → List Showing → Prop
  | start (renderer : Renderer) (messages : Messages) (own : σ) :
      Reached handler (.start renderer messages) own []
  | toggle {session : Session} {own : σ} {shown : List Showing}
      (reached : Reached handler session own shown) (guide step index : Int) :
      Reached handler (session.toggle guide step index) own shown
  | setStep {session : Session} {own : σ} {shown : List Showing}
      (reached : Reached handler session own shown) (guide step : Int) :
      Reached handler (session.setStep guide step) own shown
  | register {session : Session} {own : σ} {shown : List Showing}
      (reached : Reached handler session own shown) (guide : Int) (info : GuideInfo) :
      Reached handler (session.register guide info) own shown
  | render {session after : Session} {own : σ} {shown : List Showing}
      (reached : Reached handler session own shown) {parser : Markup.Parser} {markup : String}
      {guide step : Option Int} {disabled : Bool} {rendering : Rendering}
      (renders : session.render parser markup guide step disabled = .ok (rendering, after)) :
      Reached handler after own (after.onScreen ⟨session.renderer.registry, guide⟩ ++ shown)
  | transform {session after : Session} {own : σ} {shown : List Showing}
      (reached : Reached handler session own shown) {document : Markup} {guide step : Option Int}
      {disabled : Bool} {node : Node}
      (transforms : session.transform document guide step disabled = .ok (node, after)) :
      Reached handler after own (after.onScreen ⟨session.renderer.registry, guide⟩ ++ shown)
  | activate {session after : Session} {own last : σ} {earlier later : List Showing}
      {showing : Showing} (reached : Reached handler session own (earlier ++ showing :: later))
      {path : List Int} {keys : Modifiers} {outcome : Except HandlerError Outcome}
      {content : Content} (activates : { session with tree := some showing.tree }.activate path keys handler own =
        .ok (outcome, content, after, last)) :
      Reached handler after last (earlier ++ (after.onScreen showing.setting ++ later))

/-- What holds throughout a session. -/
structure Sound (session : Session) (shown : List Showing) : Prop where
  progress : session.progress.Reachable
  leads : ∀ showing ∈ shown, Node.Everywhere (·.LeadsIn showing.setting) [showing.tree]
  /-- The tree on the screen is one of those that were rendered. -/
  screen : ∀ tree, session.tree = some tree → ∃ showing ∈ shown, showing.tree = tree

end Session

/-! ## Rendering -/

/-- The contexts that a renderer makes are in its setting. -/
theorem Renderer.isIn_of_context {renderer : Renderer} {progress : Progress} {guide : Option Int}
    {step : Option Entry} {disabled : Bool} {ctx : Context} (reachable : progress.Reachable)
    (made : renderer.context progress (guide.map .number) step disabled = .ok ctx) :
    ctx.IsIn ⟨renderer.registry, guide⟩ := by
  have owes := owes_of_context made
  refine ⟨owes.guide, owes.registry, fun table guide step there found => ?_⟩
  obtain rfl := Option.some.inj (owes.saved.symm.trans there)
  exact reachable.step_nonneg ((Progress.lookup_saved guide).symm.trans found)

/-- **A tree leads into the setting of its rendering.** -/
theorem Renderer.leadsIn_of_renderTree {renderer : Renderer} {progress : Progress}
    {document : Markup} {guide : Option Int} {step : Option Entry} {disabled : Bool} {node : Node}
    (reachable : progress.Reachable)
    (renders : renderer.renderTree progress document (guide.map .number) step disabled =
      .ok node) : Node.Everywhere (·.LeadsIn ⟨renderer.registry, guide⟩) [node] := by
  obtain ⟨ctx, made, ⟨⟩⟩ := exists_ok_of_bind renders
  exact everywhere_leadsIn_transform (isIn_of_context reachable made) document 0

/-- A rendering that is a tree is the tree of a document that has been parsed. -/
theorem Renderer.exists_renderTree {renderer : Renderer} {parser : Markup.Parser}
    {progress : Progress} {markup : String} {guide step : Option Entry} {disabled : Bool}
    {node : Node}
    (renders : renderer.render parser progress markup guide step disabled = .ok (.tree node)) :
    ∃ document, renderer.renderTree progress document guide step disabled = .ok node := by
  rw [render] at renders
  split at renders
  · rename_i document _
    cases made : renderer.renderTree progress document guide step disabled with
    | error misfit => rw [made] at renders; exact absurd renders nofun
    | ok tree =>
      rw [made] at renders
      obtain ⟨⟩ := renders
      exact ⟨document, made⟩
  · cases made : renderer.parseFailed with
    | error misfit => rw [made] at renders; exact absurd renders nofun
    | ok message => rw [made] at renders; exact absurd renders nofun
  · exact absurd renders nofun

namespace Session

variable {session after : Session} {shown : List Showing}

/-- A tree that is put on the screen joins those that were rendered. -/
theorem Sound.show (sound : session.Sound shown) {setting : Setting}
    (progress : after.progress = session.progress)
    (leads : ∀ tree, after.tree = some tree → Node.Everywhere (·.LeadsIn setting) [tree]) :
    after.Sound (after.onScreen setting ++ shown) := by
  refine ⟨progress ▸ sound.progress, fun showing member => ?_, fun tree there => ?_⟩
  · obtain onScreen | member := List.mem_append.mp member
    · obtain ⟨tree, there, rfl⟩ := List.mem_map.mp onScreen
      exact leads tree (Option.mem_toList.mp there)
    · exact sound.leads showing member
  · refine ⟨⟨setting, tree⟩, List.mem_append_left _ ?_, rfl⟩
    rw [onScreen, there]
    exact List.mem_cons_self

theorem Sound.render (sound : session.Sound shown) {parser : Markup.Parser} {markup : String}
    {guide step : Option Int} {disabled : Bool} {rendering : Rendering}
    (renders : session.render parser markup guide step disabled = .ok (rendering, after)) :
    after.Sound (after.onScreen ⟨session.renderer.registry, guide⟩ ++ shown) := by
  obtain ⟨made, asked, ends⟩ := exists_ok_of_bind renders
  obtain ⟨rfl, rfl⟩ := Prod.mk.inj (Except.ok.inj ends)
  refine sound.show rfl fun tree there => ?_
  cases made with
  | unreadable message error => exact absurd there nofun
  | tree node =>
    obtain rfl := Option.some.inj there
    obtain ⟨document, made⟩ := Renderer.exists_renderTree asked
    exact Renderer.leadsIn_of_renderTree sound.progress made

theorem Sound.transform (sound : session.Sound shown) {document : Markup}
    {guide step : Option Int} {disabled : Bool} {node : Node}
    (transforms : session.transform document guide step disabled = .ok (node, after)) :
    after.Sound (after.onScreen ⟨session.renderer.registry, guide⟩ ++ shown) := by
  obtain ⟨made, asked, ends⟩ := exists_ok_of_bind transforms
  obtain ⟨rfl, rfl⟩ := Prod.mk.inj (Except.ok.inj ends)
  refine sound.show rfl fun tree there => ?_
  obtain rfl := Option.some.inj there
  exact Renderer.leadsIn_of_renderTree sound.progress asked

end Session

/-! ## Activating -/

/-- The handler changes the reader's progress only as changes of progress do. -/
def Handler.KeepsProgress (handler : Handler (Progress × σ)) : Prop :=
  ∀ intent live state, state.1.Reachable → (handler intent live state).2.1.Reachable

/-- What every call of a handler keeps is kept by an activation. -/
theorem carryOut_keeps {P : σ → Prop} {handler : Handler σ}
    (keeps : ∀ intent live state, P state → P (handler intent live state).2) (live : Content)
    (intents : List Intent) {state : σ} (holds : P state) :
    P (carryOut handler live intents state).2 := by
  induction intents generalizing state with
  | nil => exact holds
  | cons intent rest ih =>
    have next := keeps intent live state holds
    rw [carryOut]
    generalize handler intent live state = answered at next
    obtain ⟨reply, after⟩ := answered
    cases means : errorOf intent reply with
    | some error => simpa [means] using next
    | none => simpa [means] using ih next

theorem activate_keeps {P : σ → Prop} {handler : Handler σ}
    (keeps : ∀ intent live state, P state → P (handler intent live state).2) (messages : Messages)
    (platform : Platform) (content : Content) (keys : Modifiers) {state : σ} (holds : P state) :
    P (activate messages platform handler content keys state).2.2 := by
  rw [activate]
  split
  · exact holds
  · exact carryOut_keeps keeps _ _ holds

/-- What a link leads to does not depend on its last activation. -/
theorem Content.leadsIn_settle {content : Content} {setting : Setting} (message : Option String) :
    (content.settle message).LeadsIn setting ↔ content.LeadsIn setting := by
  cases content <;> rfl

/-- An activation changes nothing of what a content leads to. -/
theorem leadsIn_activate {handler : Handler σ} {content : Content} {setting : Setting}
    (leads : content.LeadsIn setting) (messages : Messages) (platform : Platform)
    (keys : Modifiers) (state : σ) :
    (activate messages platform handler content keys state).2.1.LeadsIn setting := by
  have same : (activate messages platform handler content keys state).2.1.settle none =
      content.settle none := settle_turn messages platform handler content keys state
  rw [← Content.leadsIn_settle none, same]
  exact (Content.leadsIn_settle none).mpr leads

/-- A property of contents that the new content has still holds everywhere after it was put in. -/
theorem Node.everywhere_setContent {P : Content → Prop} {content : Content} (holds : P content)
    {path : List Int} {tree : Node} (all : Everywhere P [tree]) :
    Everywhere P [tree.setContent content path] := by
  induction path generalizing tree with
  | nil =>
    obtain ⟨own, children⟩ := tree
    exact everywhere_mk.mpr ⟨holds, (everywhere_mk.mp all).2⟩
  | cons index path ih =>
    obtain ⟨own, children⟩ := tree
    rw [setContent]
    split
    · exact all
    · rename_i i _
      obtain ⟨here, below⟩ := everywhere_mk.mp all
      refine everywhere_mk.mpr ⟨here, fun child member => ?_⟩
      obtain ⟨j, inside, rfl⟩ := List.getElem_of_mem member
      rw [List.length_modify] at inside
      have same : Everywhere P [children[j]] :=
        List.forall_mem_singleton.mpr (below _ (List.getElem_mem _))
      rw [List.getElem_modify]
      split
      · exact List.forall_mem_singleton.mp (ih same)
      · exact List.forall_mem_singleton.mp same

namespace Session

variable {session after : Session}

/-- **What an activation does to a session**: the node at the end of the path is activated, and its
content is put back into the tree. -/
theorem eq_of_activate {path : List Int} {keys : Modifiers} {own last : σ}
    {outcome : Except HandlerError Outcome} {content : Content}
    (activates : session.activate path keys handler own = .ok (outcome, content, after, last)) :
    ∃ tree node, session.tree = some tree ∧ tree.at? path = some node ∧
      GuideMarkup.activate session.messages session.renderer.platform handler node.content keys
        (session.progress, own) = (outcome, content, after.progress, last) ∧
      after.tree = some (tree.setContent content path) := by
  obtain ⟨found, there, activates⟩ := exists_ok_of_bind activates
  cases found with
  | none => exact absurd activates nofun
  | some node =>
  rw [nodeAt] at there
  split at there
  · split at there <;> exact absurd there nofun
  rename_i tree onScreen
  split at there
  · rename_i node' found
    obtain rfl : node' = node := Option.some.inj (Except.ok.inj there)
    simp only at activates
    generalize done : GuideMarkup.activate session.messages session.renderer.platform handler
      node'.content keys (session.progress, own) = result at activates
    obtain ⟨outcome, content, progress, last⟩ := result
    obtain ⟨⟩ := activates
    refine ⟨tree, node', onScreen, found, done, ?_⟩
    rw [onScreen]
    rfl
  · exact absurd there nofun

/-- Activating a node of a tree that was rendered leaves the session as sound as it was. -/
theorem Sound.activate {earlier later : List Showing} {showing : Showing}
    (sound : session.Sound (earlier ++ showing :: later)) (keeps : handler.KeepsProgress)
    {path : List Int} {keys : Modifiers} {own last : σ} {outcome : Except HandlerError Outcome}
    {content : Content} (activates : { session with tree := some showing.tree }.activate path keys handler own =
      .ok (outcome, content, after, last)) :
    after.Sound (earlier ++ (after.onScreen showing.setting ++ later)) := by
  obtain ⟨tree, node, there, found, done, put⟩ := eq_of_activate activates
  obtain rfl : showing.tree = tree := Option.some.inj there
  have onScreen : after.onScreen showing.setting =
      [⟨showing.setting, showing.tree.setContent content path⟩] := by
    rw [Session.onScreen, put]
    rfl
  have leads := sound.leads showing (List.mem_append_right _ List.mem_cons_self)
  have leadsStill : content.LeadsIn showing.setting := by
    have before := leads _ List.mem_cons_self node (Node.mem_walk_of_at? found)
    have still := @leadsIn_activate _ handler _ _ before session.messages
      session.renderer.platform keys (session.progress, own)
    rwa [done] at still
  rw [onScreen]
  refine ⟨?_, fun other member => ?_, fun tree shows => ?_⟩
  · have kept := activate_keeps (P := fun state : Progress × σ => state.1.Reachable) keeps
      session.messages session.renderer.platform node.content keys
      (show Progress.Reachable (session.progress, own).1 from sound.progress)
    rwa [done] at kept
  · obtain member | member := List.mem_append.mp member
    · exact sound.leads other (List.mem_append_left _ member)
    · obtain rfl | member := List.mem_cons.mp member
      · exact Node.everywhere_setContent leadsStill leads
      · exact sound.leads other (List.mem_append_right _ (List.mem_cons_of_mem _ member))
  · obtain rfl := Option.some.inj (put.symm.trans shows)
    exact ⟨_, List.mem_append_right _ List.mem_cons_self, rfl⟩

/-- **Every session that a reader gets to is sound.** -/
theorem Reached.sound (keeps : handler.KeepsProgress) {own : σ} {shown : List Showing}
    (reached : Reached handler session own shown) : session.Sound shown := by
  induction reached with
  | start renderer messages own => exact ⟨.empty, nofun, nofun⟩
  | toggle _ guide step index ih =>
    exact ⟨ih.progress.toggle guide step index, ih.leads, ih.screen⟩
  | setStep _ guide step ih => exact ⟨ih.progress.setStep guide step, ih.leads, ih.screen⟩
  | register _ guide info ih => exact ⟨ih.progress, ih.leads, ih.screen⟩
  | render _ renders ih => exact ih.render renders
  | transform _ transforms ih => exact ih.transform transforms
  | activate _ activates ih => exact ih.activate keeps activates

end Session

/-- **The links of a session lead to steps that there are.**  Whatever a reader does in whatever
order, every gesture on every node of every tree that was rendered leads only to steps that its
guide had when the tree was rendered, and asks for a guide right before leading to it just if it was
not at hand then; the tree on the screen is one of these. -/
theorem directs_of_reached (keeps : handler.KeepsProgress) {session : Session} {own : σ}
    {shown : List Showing} (reached : Session.Reached handler session own shown) :
    (∀ showing ∈ shown, ∀ node ∈ showing.tree.walk, ∀ keys platform,
        showing.setting.Directs (node.content.intents keys platform)) ∧
      ∀ tree, session.tree = some tree → ∃ showing ∈ shown, showing.tree = tree := by
  have sound := reached.sound keeps
  refine ⟨fun showing member node inTree keys platform => ?_, sound.screen⟩
  exact (sound.leads showing member _ List.mem_cons_self node inTree).directs keys platform

/-! ### A link to where the reader has got to -/

/-- A session in which guide 5 has ten steps, and the reader says to have got further. -/
def Session.ahead : Session :=
  (((start .packaged ⟨"", ""⟩).toggle 5 0 0).setStep 5 42).register 5 ⟨.number 10, "fr"⟩

/-- A link to the step that the reader has reached in guide 5. -/
def resumingLink : Markup :=
  .element ⟨"span", [("data-type", "guide-step"), ("guideid", "5"), ("stepnumber", "3"),
    ("stepid", "0")]⟩ []

/-- The link, as it is shown in guide 7. -/
def resumedLink : Node :=
  Node.leaf (.crossGuide ⟨⟨5, 9, true, false⟩, false, false, none⟩)

/-- The link leads to the last step that there is. -/
theorem directs_of_reached_resumedLink :
    Progress.forwarder.KeepsProgress ∧
      Session.Reached Progress.forwarder { Session.ahead with tree := some resumedLink } ()
        [⟨⟨[(5, ⟨.number 10, "fr"⟩)], some 7⟩, resumedLink⟩] ∧
      Setting.Directs ⟨[(5, ⟨.number 10, "fr"⟩)], some 7⟩ [.navigate 5 9] := by
  have keeps : Progress.forwarder.KeepsProgress := fun intent live state reachable => by
    cases intent with
    | toggle guide step index => exact reachable.toggle guide step index
    | _ => exact reachable
  have transforms : Session.ahead.transform resumingLink (some 7) (some 0) false =
      .ok (resumedLink, { Session.ahead with tree := some resumedLink }) := by
    rfl
  have reached : Session.Reached Progress.forwarder { Session.ahead with tree := some resumedLink }
      () [⟨⟨[(5, ⟨.number 10, "fr"⟩)], some 7⟩, resumedLink⟩] :=
    .transform (.register (.setStep (.toggle (.start .packaged ⟨"", ""⟩ ()) 5 0 0) 5 42) 5 _)
      transforms
  refine ⟨keeps, reached, ?_⟩
  exact (directs_of_reached keeps reached).1 _ List.mem_cons_self resumedLink List.mem_cons_self
    .none ⟨false⟩

end GuideMarkup
