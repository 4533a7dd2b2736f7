import GuideMarkup.Activation
import Mathlib.Algebra.Group.Int.Defs
import Mathlib.Algebra.Ring.Nat

/-!
# Proofs/Protocol — how an activation deals with the host

    intents of the gesture   a · b · c · d
    calls of the host        a   b   c✗          up to the first that fails
    carried out              a   b

A call is known from outside only, by a handler that keeps a record (`Handler.recorded`) and answers
just as before (`exists_transcript`).  What an activation does is read off its calls, which are a
`Transcript` of the intents; `orderly_turns` says it of every activation in a row of them on one
content, so that a link that has failed can be tried again.

An activation ends with an outcome just if every error that a call means can be told
(`HandlerError.IsTold`).  An error of the host that answers whatever it is asked always can
(`HandlerError.IsPlain`); one without a text cannot (`not_orderly_overlong`).
-/

namespace GuideMarkup

variable {σ : Type} {messages : Messages} {platform : Platform} {handler : Handler σ}

/-! ## Calls -/

/-- A call of the host, with its answer. -/
structure Call where
  intent : Intent
  reply : Reply

namespace Call

/-- The error that the answer means. -/
def error (call : Call) : Option HandlerError :=
  errorOf call.intent call.reply

/-- The intent was carried out. -/
def succeeds (call : Call) : Bool :=
  call.error.isNone

/-- A download has succeeded just if it was neither refused nor ended with an error. -/
theorem succeeds_download {guide : Int} {reply : Reply} :
    (Call.mk (.download guide) reply).succeeds = true ↔ reply = .done := by
  cases reply <;> simp [succeeds, error, errorOf, downloadError]

end Call

/-- The handler that also records its calls. -/
def Handler.recorded (handler : Handler σ) : Handler (List Call × σ) :=
  fun intent live (calls, state) =>
    let (reply, after) := handler intent live state
    (reply, calls ++ [⟨intent, reply⟩], after)

/-- **The calls that go with some intents**: one after the other, up to the first that fails. -/
inductive Transcript : List Intent → List Call → Prop
  | nil : Transcript [] []
  | failed (call : Call) (rest : List Intent) (fails : call.succeeds = false) :
      Transcript (call.intent :: rest) [call]
  | cons (call : Call) {rest : List Intent} {calls : List Call}
      (succeeds : call.succeeds = true) (more : Transcript rest calls) :
      Transcript (call.intent :: rest) (call :: calls)

/-- The intents of the calls that have succeeded. -/
def carriedOut (calls : List Call) : List Intent :=
  (calls.filter Call.succeeds).map Call.intent

/-- The error of the first call that has failed. -/
def firstError (calls : List Call) : Option HandlerError :=
  calls.findSome? Call.error

/-- **Intents are handed over by a transcript**, which says what was carried out and what the
error was.  A handler that keeps a record ends in the same way, with these calls added. -/
theorem exists_transcript (live : Content) (intents : List Intent) (state : σ) :
    ∃ calls last, Transcript intents calls ∧
      carryOut handler live intents state = ((carriedOut calls, firstError calls), last) ∧
      ∀ earlier, carryOut handler.recorded live intents (earlier, state) =
        ((carriedOut calls, firstError calls), earlier ++ calls, last) := by
  induction intents generalizing state with
  | nil => exact ⟨[], state, .nil, rfl, fun earlier => by rw [List.append_nil]; rfl⟩
  | cons intent rest ih =>
    generalize answer : handler intent live state = answered
    obtain ⟨reply, after⟩ := answered
    cases means : errorOf intent reply with
    | some error =>
      have own : (Call.mk intent reply).error = some error := means
      have fails : (Call.mk intent reply).succeeds = false := by rw [Call.succeeds, own]; rfl
      refine ⟨[⟨intent, reply⟩], after, .failed ⟨intent, reply⟩ rest fails, ?_, fun earlier => ?_⟩
      · simp [carryOut, answer, means, carriedOut, firstError, fails, own]
      · simp [carryOut, Handler.recorded, answer, means, carriedOut, firstError, fails, own]
    | none =>
      have own : (Call.mk intent reply).error = none := means
      have succeeds : (Call.mk intent reply).succeeds = true := by rw [Call.succeeds, own]; rfl
      obtain ⟨calls, last, transcript, ends, records⟩ := ih after
      refine ⟨⟨intent, reply⟩ :: calls, last, .cons ⟨intent, reply⟩ succeeds transcript, ?_,
        fun earlier => ?_⟩
      · simp [carryOut, answer, means, ends, carriedOut, firstError, succeeds, own]
      · have records := records (earlier ++ [⟨intent, reply⟩])
        simp [carryOut, Handler.recorded, answer, means, carriedOut, firstError, succeeds, own,
          records]

/-! ## What a transcript shows -/

namespace Transcript

variable {intents : List Intent} {calls : List Call}

/-- The host is called with a first part of the intents. -/
theorem isPrefix (transcript : Transcript intents calls) :
    calls.map Call.intent <+: intents := by
  induction transcript with
  | nil => exact List.prefix_rfl
  | failed call rest _ => exact ⟨rest, rfl⟩
  | cons call _ _ ih => exact List.prefix_cons_inj call.intent |>.mpr ih

/-- Only the last call can have failed. -/
theorem succeeds_of_mem_dropLast (transcript : Transcript intents calls) :
    ∀ call ∈ calls.dropLast, call.succeeds = true := by
  induction transcript with
  | nil => exact fun _ member => absurd member List.not_mem_nil
  | failed call rest fails => exact fun _ member => absurd member List.not_mem_nil
  | @cons call rest calls succeeds _ ih =>
    cases calls with
    | nil => exact fun _ member => absurd member List.not_mem_nil
    | cons next calls => exact List.forall_mem_cons.mpr ⟨succeeds, ih⟩

/-- If no call has failed, the host was called with all intents. -/
theorem map_intent_of_succeeds (transcript : Transcript intents calls)
    (succeed : ∀ call ∈ calls, call.succeeds = true) : calls.map Call.intent = intents := by
  induction transcript with
  | nil => rfl
  | failed call rest fails =>
    exact absurd (succeed call List.mem_cons_self) (by rw [fails]; exact Bool.false_ne_true)
  | cons call _ _ ih =>
    rw [List.map_cons, ih fun other member => succeed other (List.mem_cons_of_mem _ member)]

/-- All intents were carried out just if no call has failed. -/
theorem carriedOut_eq_iff (transcript : Transcript intents calls) :
    carriedOut calls = intents ↔ firstError calls = none := by
  induction transcript with
  | nil => exact ⟨fun _ => rfl, fun _ => rfl⟩
  | failed call rest fails =>
    have error : call.error ≠ none := fun none => by simp [Call.succeeds, none] at fails
    simp [carriedOut, firstError, fails, error]
  | cons call succeeds _ ih =>
    have error : call.error = none := Option.isNone_iff_eq_none.mp succeeds
    simpa [carriedOut, firstError, succeeds, error] using ih

/-- Only one call can mean an error, the first that does. -/
theorem error_eq_some_iff (transcript : Transcript intents calls) {error : HandlerError} :
    (∃ call ∈ calls, call.error = some error) ↔ firstError calls = some error := by
  induction transcript with
  | nil => simp [firstError]
  | failed call rest _ => cases own : call.error <;> simp [firstError, own]
  | cons call succeeds _ ih =>
    have own : call.error = none := Option.isNone_iff_eq_none.mp succeeds
    simpa [firstError, own] using ih

end Transcript

/-! ## What an error tells -/

namespace HandlerError

/-- **The problem that the reader is told about.**  A failed download tells its guide, any other error
the intent that has failed and its cause. -/
inductive Tells (error : HandlerError) : Problem → Prop
  | download {guide : Option Int} (isDownload : error.download = some (.ok guide)) :
      error.Tells (.downloadFailed guide)
  | action {intent : Option Intent} {cause : Option String} (noDownload : error.download = none)
      (isAction : error.action = some ⟨.ok intent, .ok cause⟩) :
      error.Tells (.intentFailed intent cause)

/-- There is a problem to tell about. -/
def IsTold (error : HandlerError) : Prop :=
  ∃ problem, error.Tells problem

/-- The error answers whatever it is asked for. -/
structure IsPlain (error : HandlerError) : Prop where
  text : error.text = .ok ()
  isTrue : ∃ isTrue, error.isTrue = .ok isTrue
  download : ∀ told, error.download = some told → ∃ guide, told = .ok guide
  action : ∀ told, error.action = some told → ∃ intent cause, told = ⟨.ok intent, .ok cause⟩

variable {error : HandlerError}

theorem tells_iff {problem : Problem} : error.Tells problem ↔ error.ending = .problem problem := by
  constructor
  · rintro (isDownload | ⟨noDownload, isAction⟩)
    · rw [ending, isDownload]
    · rw [ending, noDownload, isAction]
  · intro ends
    rw [ending] at ends
    split at ends
    · obtain ⟨⟩ := ends
      exact .download ‹_›
    · cases ends
    · obtain ⟨⟩ := ends
      exact .action ‹_› ‹_›
    all_goals cases ends

/-- As the error of a download, a plain error can be told. -/
theorem IsPlain.isTold_asDownload (plain : error.IsPlain) (guide : Int) :
    (error.asDownload guide).IsTold := by
  rw [asDownload, plain.text]
  cases known : error.download with
  | none => exact ⟨.downloadFailed (some guide), .download rfl⟩
  | some told =>
    obtain ⟨own, rfl⟩ := plain.download told known
    exact ⟨.downloadFailed own, .download known⟩

/-- As the error of any other intent, a plain error can be told. -/
theorem IsPlain.isTold_asAction (plain : error.IsPlain) (intent : Intent) :
    (error.asAction intent).IsTold := by
  rw [asAction, plain.text]
  cases known : error.action with
  | none =>
    obtain ⟨isTrue, counts⟩ := plain.isTrue
    have cause : error.asCause = .ok (if isTrue then some error.name else none) := by
      rw [asCause, counts]
      rfl
    refine ⟨.intentFailed (some intent) (if isTrue then some error.name else none),
      .action rfl ?_⟩
    rw [← cause]
    rfl
  | some told =>
    obtain ⟨own, cause, rfl⟩ := plain.action told known
    cases isDownload : error.download with
    | none => exact ⟨.intentFailed own cause, .action isDownload known⟩
    | some guide =>
      obtain ⟨guide, rfl⟩ := plain.download guide isDownload
      exact ⟨.downloadFailed guide, .download isDownload⟩

end HandlerError

/-- **What a call means can be told** if the host ends it with a plain error at most. -/
theorem Call.isTold_of_isPlain {call : Call} {left : HandlerError}
    (plain : ∀ error, call.reply = .failed error → error.IsPlain)
    (means : call.error = some left) : left.IsTold := by
  obtain ⟨intent, reply⟩ := call
  cases reply with
  | done => cases intent <;> cases means
  | refused =>
    cases intent with
    | download guide =>
      obtain rfl := Option.some.inj means
      exact ⟨.downloadFailed (some guide), .download rfl⟩
    | _ => cases means
  | failed error =>
    have own : error.IsPlain := plain error rfl
    cases intent with
    | download guide =>
      obtain rfl := Option.some.inj means
      exact own.isTold_asDownload guide
    | _ =>
      obtain rfl := Option.some.inj means
      exact own.isTold_asAction _

/-! ## One activation -/

/-- One activation of a content. -/
structure Turn where
  /-- The keys held. -/
  keys : Modifiers
  /-- The content that was activated. -/
  before : Content
  /-- The calls of the host, in order. -/
  calls : List Call
  /-- The outcome, unless an error has escaped. -/
  outcome : Except HandlerError Outcome
  /-- The content afterwards. -/
  after : Content

namespace Turn

/-- The intents of the gesture. -/
def intents (platform : Platform) (turn : Turn) : List Intent :=
  turn.before.intents turn.keys platform

/-- **An outcome as it should be.** -/
structure Reports (messages : Messages) (platform : Platform) (turn : Turn) (outcome : Outcome) :
    Prop where
  /-- What counts as carried out are the intents that have succeeded. -/
  executed : outcome.executed = carriedOut turn.calls
  /-- It is a success if all intents of the gesture have succeeded. -/
  success : outcome.success = true ↔ outcome.executed = turn.intents platform
  /-- The problem is that of the call that has failed, and the message is about it. -/
  problem : ∀ problem message, outcome.problem = some (problem, message) ↔
    message = messages.about problem ∧
      ∃ call ∈ turn.calls, ∃ error, call.error = some error ∧ error.Tells problem

/-- **An activation as it should be**: there is an outcome unless an error of the host cannot be
told. -/
structure Orderly (messages : Messages) (platform : Platform) (turn : Turn) : Prop where
  /-- The host is called with the intents of the gesture, from the first one on. -/
  inOrder : turn.calls.map Call.intent <+: turn.intents platform
  /-- Nothing is called after a failure. -/
  stops : ∀ call ∈ turn.calls.dropLast, call.succeeds = true
  /-- Nothing but a failure stops the calls. -/
  continues : (∀ call ∈ turn.calls, call.succeeds = true) →
    turn.calls.map Call.intent = turn.intents platform
  /-- There is an outcome just if every error that a call means can be told. -/
  returns : (∃ outcome, turn.outcome = .ok outcome) ↔
    ∀ call ∈ turn.calls, ∀ error, call.error = some error → error.IsTold
  /-- So there is one if the host ends its calls with plain errors only. -/
  returnsOfPlain : (∀ call ∈ turn.calls, ∀ error, call.reply = .failed error → error.IsPlain) →
    ∃ outcome, turn.outcome = .ok outcome
  reports : ∀ outcome, turn.outcome = .ok outcome → turn.Reports messages platform outcome
  /-- A link to a guide that is not available leads there only after it has been downloaded. -/
  download : ∀ cross, turn.before = .crossGuide cross → cross.needsDownload = true →
    ∀ earlier guide step reply later,
      turn.calls = earlier ++ ⟨.navigate guide step, reply⟩ :: later →
        ⟨.download cross.link.guide, .done⟩ ∈ earlier
  /-- A link emits nothing while it is disabled or pending. -/
  silent : ∀ cross, turn.before = .crossGuide cross →
    (turn.intents platform = [] ↔ cross.link.disabled = true ∨ cross.pending = true)
  /-- A gesture without intents changes nothing. -/
  idle : turn.intents platform = [] → turn.calls = [] ∧ turn.after = turn.before
  /-- A link is idle afterwards, and shows the message of a failure.  It may show none, or that of a
  failed action, if there is no outcome. -/
  settled : ∀ cross, turn.before = .crossGuide cross → turn.intents platform ≠ [] →
    ∃ shown, turn.after = .crossGuide { cross with pending := false, error := shown } ∧
      (∀ outcome, turn.outcome = .ok outcome →
        shown = if outcome.success then none else some outcome.message) ∧
      (shown = none ∨ (∃ outcome, turn.outcome = .ok outcome) ∨ shown = some messages.actionFailed)
  /-- Nothing else is changed by being activated. -/
  unchanged : (∀ cross, turn.before ≠ .crossGuide cross) → turn.after = turn.before

end Turn

/-- **One activation of a content**, and the state of the handler after it.  The calls are those of
a record that is kept meanwhile. -/
def turn (messages : Messages) (platform : Platform) (handler : Handler σ) (content : Content)
    (keys : Modifiers) (state : σ) : Turn × σ :=
  let (outcome, after, last) := activate messages platform handler content keys state
  let (_, _, calls, _) := activate messages platform handler.recorded content keys ([], state)
  (⟨keys, content, calls, outcome, after⟩, last)

/-- **What one activation comes to**, by the transcript of its calls. -/
theorem exists_turn (messages : Messages) (platform : Platform) (handler : Handler σ)
    (content : Content) (keys : Modifiers) (state : σ) :
    ∃ calls last, Transcript (content.intents keys platform) calls ∧
      turn messages platform handler content keys state =
        (⟨keys, content, calls, (conclude messages (carriedOut calls) (firstError calls)).1,
          if content.intents keys platform = [] then content
            else content.settle (conclude messages (carriedOut calls) (firstError calls)).2⟩,
          last) := by
  obtain ⟨calls, last, transcript, ends, records⟩ :=
    @exists_transcript σ handler content.begin (content.intents keys platform) state
  refine ⟨calls, last, transcript, ?_⟩
  have records := records []
  rw [turn, activate, activate]
  cases emitted : content.intents keys platform with
  | nil =>
    rw [emitted] at transcript ends
    cases transcript with
    | nil =>
      obtain ⟨⟩ := ends
      rfl
  | cons intent rest =>
    rw [emitted] at ends records
    simp only [ends, records, List.nil_append, reduceCtorEq, if_false]

/-! ### Outcomes -/

/-- There is an outcome just if the error, if there is one, can be told. -/
theorem exists_conclude_iff (messages : Messages) (executed : List Intent)
    (error : Option HandlerError) :
    (∃ outcome, (conclude messages executed error).1 = .ok outcome) ↔
      ∀ left, error = some left → left.IsTold := by
  cases error with
  | none => simp [conclude]
  | some error =>
    simp only [Option.some.injEq, forall_eq', HandlerError.IsTold, HandlerError.tells_iff, conclude]
    cases error.ending <;> simp

/-- The outcome tells of the problem, and its message is what a link shows. -/
theorem conclude_of_ok {messages : Messages} {executed : List Intent} {error : Option HandlerError}
    {outcome : Outcome} (ends : (conclude messages executed error).1 = .ok outcome) :
    outcome.executed = executed ∧ (outcome.problem = none ↔ error = none) ∧
      (∀ problem message, outcome.problem = some (problem, message) ↔
        message = messages.about problem ∧ ∃ left, error = some left ∧ left.Tells problem) ∧
      (conclude messages executed error).2 =
        if outcome.success then none else some outcome.message := by
  cases error with
  | none =>
    obtain ⟨⟩ := ends
    simp [conclude, Outcome.success]
  | some error =>
    simp only [HandlerError.tells_iff, conclude] at ends ⊢
    cases ending : error.ending with
    | escape other isShown =>
      rw [ending] at ends
      cases ends
    | problem told =>
      rw [ending] at ends
      obtain ⟨⟩ := ends
      refine ⟨rfl, by simp, fun problem message => ?_, rfl⟩
      simp only [Option.some.injEq, Prod.mk.injEq, exists_eq_left', ending, Ending.problem.injEq]
      constructor
      · rintro ⟨rfl, rfl⟩
        exact ⟨rfl, rfl⟩
      · rintro ⟨rfl, rfl⟩
        exact ⟨rfl, rfl⟩

/-- There is an outcome just if every error that a call means can be told. -/
theorem Transcript.exists_conclude_iff_isTold {intents : List Intent} {calls : List Call}
    (transcript : Transcript intents calls) (messages : Messages) :
    (∃ outcome, (conclude messages (carriedOut calls) (firstError calls)).1 = .ok outcome) ↔
      ∀ call ∈ calls, ∀ error, call.error = some error → error.IsTold := by
  simp only [exists_conclude_iff, ← transcript.error_eq_some_iff]
  exact ⟨fun told call member error means => told error ⟨call, member, means⟩,
    fun told error ⟨call, member, means⟩ => told call member error means⟩

/-- **The outcome of a transcript is as it should be.** -/
theorem Transcript.reports {turn : Turn}
    (transcript : Transcript (turn.intents platform) turn.calls) {outcome : Outcome}
    (ends : (conclude messages (carriedOut turn.calls) (firstError turn.calls)).1 = .ok outcome) :
    turn.Reports messages platform outcome := by
  obtain ⟨executed, noProblem, problem, -⟩ := conclude_of_ok ends
  refine ⟨executed, ?_, fun told message => ?_⟩
  · rw [Outcome.success, Option.isNone_iff_eq_none, noProblem, executed,
      transcript.carriedOut_eq_iff]
  · simp only [problem, ← transcript.error_eq_some_iff]
    constructor
    · rintro ⟨about, error, ⟨call, member, means⟩, tells⟩
      exact ⟨about, call, member, error, means, tells⟩
    · rintro ⟨about, call, member, error, means, tells⟩
      exact ⟨about, error, ⟨call, member, means⟩, tells⟩

/-- Without an outcome a link shows nothing, or that an action has failed. -/
theorem shown_conclude (messages : Messages) (executed : List Intent)
    (error : Option HandlerError) :
    (conclude messages executed error).2 = none ∨
      (∃ outcome, (conclude messages executed error).1 = .ok outcome) ∨
        (conclude messages executed error).2 = some messages.actionFailed := by
  cases error with
  | none => exact .inl rfl
  | some error =>
    rw [conclude]
    cases error.ending with
    | problem told => exact .inr (.inl ⟨_, rfl⟩)
    | escape other isShown =>
      cases isShown with
      | false => exact .inl rfl
      | true => exact .inr (.inr rfl)

/-! ### Links -/

/-- A link emits nothing just while it is disabled or pending. -/
theorem CrossLink.intents_eq_nil_iff {cross : CrossLink} {keys : Modifiers} :
    (Content.crossGuide cross).intents keys platform = [] ↔
      cross.link.disabled = true ∨ cross.pending = true := by
  rw [Content.intents, Content.isActivatable, Content.gesture, intents]
  cases cross.link.disabled <;> cases cross.pending <;> simp

/-- A link to a guide that is not available asks for the guide, and then leads there. -/
theorem CrossLink.intents_of_needsDownload {cross : CrossLink} {keys : Modifiers}
    (needs : cross.needsDownload = true)
    (emits : (Content.crossGuide cross).intents keys platform ≠ []) :
    (Content.crossGuide cross).intents keys platform =
      [.download cross.link.guide, .navigate cross.link.guide cross.link.step] := by
  rw [Ne, intents_eq_nil_iff, not_or] at emits
  obtain ⟨enabled, idle⟩ := emits
  simp [Content.intents, Content.isActivatable, Content.gesture, intents, enabled, idle, needs]

/-- After a download that is asked for first, the call that leads there comes second. -/
theorem Transcript.done_of_navigate {guide guide' step step' : Int} {earlier later : List Call}
    {reply : Reply} (transcript : Transcript [.download guide, .navigate guide step]
      (earlier ++ ⟨.navigate guide' step', reply⟩ :: later)) :
    ⟨.download guide, .done⟩ ∈ earlier := by
  have succeed := transcript.succeeds_of_mem_dropLast
  rw [List.dropLast_append_cons] at succeed
  obtain ⟨more, inOrder⟩ := transcript.isPrefix
  cases earlier with
  | nil => simp at inOrder
  | cons first earlier =>
    obtain ⟨intent, reply'⟩ := first
    simp only [List.cons_append, List.map_cons, List.cons.injEq] at inOrder
    obtain rfl : intent = .download guide := inOrder.1
    have succeeds := succeed _ (List.mem_append_left _ List.mem_cons_self)
    rw [Call.succeeds_download.mp succeeds]
    exact List.mem_cons_self

/-- A link to a guide that is not available leads there only after the download. -/
theorem Transcript.done_of_needsDownload {cross : CrossLink} {keys : Modifiers}
    {guide step : Int} {earlier later : List Call} {reply : Reply}
    (needs : cross.needsDownload = true)
    (transcript : Transcript ((Content.crossGuide cross).intents keys platform)
      (earlier ++ ⟨.navigate guide step, reply⟩ :: later)) :
    ⟨.download cross.link.guide, .done⟩ ∈ earlier := by
  have emits : (Content.crossGuide cross).intents keys platform ≠ [] := fun none => by
    rw [none] at transcript
    generalize same : earlier ++ _ = calls at transcript
    cases transcript
    simp at same
  rw [CrossLink.intents_of_needsDownload needs emits] at transcript
  exact transcript.done_of_navigate

namespace Content

/-- Only links to other guides are changed by being activated. -/
theorem settle_eq_self {content : Content} (other : ∀ cross, content ≠ .crossGuide cross)
    (message : Option String) : content.settle message = content := by
  cases content with
  | crossGuide cross => exact absurd rfl (other cross)
  | _ => rfl

theorem settle_settle (content : Content) (message message' : Option String) :
    (content.settle message).settle message' = content.settle message' := by
  cases content <;> rfl

end Content

/-- **Every activation is as it should be.** -/
theorem orderly_turn (messages : Messages) (platform : Platform) (handler : Handler σ)
    (content : Content) (keys : Modifiers) (state : σ) :
    (turn messages platform handler content keys state).1.Orderly messages platform := by
  obtain ⟨calls, last, transcript, becomes⟩ :=
    exists_turn messages platform handler content keys state
  have told := transcript.exists_conclude_iff_isTold messages
  rw [becomes]
  refine
    { inOrder := transcript.isPrefix
      stops := transcript.succeeds_of_mem_dropLast
      continues := transcript.map_intent_of_succeeds
      returns := told
      returnsOfPlain := ?returnsOfPlain
      reports := fun _ => @Transcript.reports messages platform
        ⟨keys, content, calls, (conclude messages (carriedOut calls) (firstError calls)).1, _⟩
        transcript _
      download := ?download
      silent := ?silent
      idle := ?idle
      settled := ?settled
      unchanged := ?unchanged }
  case returnsOfPlain =>
    exact fun plain => told.mpr fun call member error =>
      Call.isTold_of_isPlain (plain call member)
  case download =>
    rintro cross rfl needs earlier guide step reply later rfl
    exact transcript.done_of_needsDownload needs
  case silent =>
    rintro cross rfl
    exact CrossLink.intents_eq_nil_iff
  case idle =>
    intro none
    rw [Turn.intents] at none
    refine ⟨?_, if_pos none⟩
    have inOrder := transcript.isPrefix
    rw [none, List.prefix_nil] at inOrder
    exact List.map_eq_nil_iff.mp inOrder
  case settled =>
    rintro cross rfl emits
    rw [Turn.intents] at emits
    exact ⟨_, if_neg emits, fun outcome ends => (conclude_of_ok ends).2.2.2,
      shown_conclude messages _ _⟩
  case unchanged =>
    intro other
    simp only
    split
    · rfl
    · exact Content.settle_eq_self other _

/-- An activation changes no field but whether a link is pending, and its error. -/
theorem settle_turn (messages : Messages) (platform : Platform) (handler : Handler σ)
    (content : Content) (keys : Modifiers) (state : σ) :
    (turn messages platform handler content keys state).1.after.settle none =
      content.settle none := by
  obtain ⟨calls, last, -, becomes⟩ := exists_turn messages platform handler content keys state
  rw [becomes]
  simp only
  split
  · rfl
  · exact Content.settle_settle content _ none

/-! ## Activations in a row -/

/-- **A content that is activated again and again**, with some keys held each time. -/
def turns (messages : Messages) (platform : Platform) (handler : Handler σ) :
    Content → List Modifiers → σ → List Turn
  | _, [], _ => []
  | content, keys :: rest, state =>
    let (first, last) := turn messages platform handler content keys state
    first :: turns messages platform handler first.after rest last

/-- **Every activation in a row is as it should be**, whatever the host answers; of all fields of the
content only whether it is pending, and its error, ever change. -/
theorem orderly_turns (messages : Messages) (platform : Platform) (handler : Handler σ)
    (content : Content) (gestures : List Modifiers) (state : σ) :
    (turns messages platform handler content gestures state).map Turn.keys = gestures ∧
      ∀ turn ∈ turns messages platform handler content gestures state,
        turn.Orderly messages platform ∧ turn.after.settle none = content.settle none := by
  induction gestures generalizing content state with
  | nil => exact ⟨rfl, fun _ member => absurd member List.not_mem_nil⟩
  | cons keys rest ih =>
    have orderly := orderly_turn messages platform handler content keys state
    have frame := settle_turn messages platform handler content keys state
    have own : (turn messages platform handler content keys state).1.keys = keys := rfl
    generalize first : turn messages platform handler content keys state = made at orderly frame own
    obtain ⟨made, last⟩ := made
    obtain ⟨gestures, others⟩ := ih made.after last
    rw [turns, first]
    refine ⟨?_, List.forall_mem_cons.mpr ⟨⟨orderly, frame⟩, fun turn member => ?_⟩⟩
    · rw [List.map_cons, own, gestures]
    · obtain ⟨orderly, same⟩ := others turn member
      exact ⟨orderly, same.trans frame⟩

/-- A host that answers as it is told, and `done` from then on. -/
def Handler.scripted : Handler (List Reply) :=
  fun _ _ replies => (replies.headD .done, replies.tail)

/-- A download that is refused is asked for again, and then the link leads to the guide. -/
example : (turns ⟨"no guide", "no action"⟩ ⟨false⟩ Handler.scripted
      (.crossGuide ⟨⟨7, 3, true, false⟩, true, false, none⟩) [.none, .none] [.refused]).map
        (fun turn => (turn.calls.map Call.intent, turn.after)) =
    [([.download 7], .crossGuide ⟨⟨7, 3, true, false⟩, true, false, some "no guide"⟩),
      ([.download 7, .navigate 7 3], .crossGuide ⟨⟨7, 3, true, false⟩, true, false, none⟩)] := by
  rfl

/-! ### An error without a text -/

namespace Numeral

theorem fits_iff {n count : Nat} (some : 0 < count) : fits n count = true ↔ n < 10 ^ count := by
  induction count generalizing n with
  | zero => exact absurd some (Nat.lt_irrefl 0)
  | succ count ih =>
    cases count with
    | zero => simp [fits]
    | succ count =>
      rw [fits, Bool.or_eq_true, decide_eq_true_iff, ih (Nat.succ_pos count),
        Nat.div_lt_iff_lt_mul (by decide), ← Nat.pow_succ]
      have more : 10 ≤ 10 ^ (count + 1 + 1) := Nat.le_self_pow (Nat.succ_ne_zero _) 10
      omega

/-- **The integers that can be written** are those of at most `maxDigits` digits. -/
theorem isWritable_iff {n : Int} : isWritable n = true ↔ n.natAbs < 10 ^ maxDigits :=
  fits_iff (by decide)

theorem isWritable_pow : isWritable (10 ^ maxDigits) = false := by
  rw [Bool.eq_false_iff, Ne, isWritable_iff]
  generalize maxDigits = count
  rw [Int.natAbs_pow]
  exact Nat.lt_irrefl _

end Numeral

/-- A failed download of a guide whose number is too long to be written. -/
def Failure.overlong : Failure :=
  ⟨.download (some (10 ^ Numeral.maxDigits)), "offline", none⟩

theorem Failure.message?_of_not_isWritable {guide : Int} {text : String} {cause : Option String}
    (long : Numeral.isWritable guide = false) :
    (Failure.mk (.download (some guide)) text cause).message? = none := by
  simp only [message?, long, Bool.false_eq_true, ↓reduceIte]

/-- **A host can leave an activation without an outcome**: it ends the call that leads to an available
guide with a failed download that has no text.  The link is idle again, but shows no error. -/
theorem not_orderly_overlong :
    let link : CrossLink := ⟨⟨7, 3, true, false⟩, false, false, none⟩
    let (outcome, after, _) := activate ⟨"no guide", "no action"⟩ ⟨false⟩ Handler.scripted
      (.crossGuide link) .none [.failed (.ofFailure .overlong)]
    (¬∃ result, outcome = .ok result) ∧ after = .crossGuide link := by
  have action : (HandlerError.ofFailure .overlong).action = none := rfl
  have text : (HandlerError.ofFailure .overlong).text = .error (.plain "ValueError") := by
    have noMessage : Failure.overlong.message? = none :=
      Failure.message?_of_not_isWritable Numeral.isWritable_pow
    simp only [HandlerError.ofFailure, noMessage]
    rfl
  generalize HandlerError.ofFailure .overlong = error at action text
  have escapes : error.asAction (.navigate 7 3) = .plain "ValueError" := by
    rw [HandlerError.asAction, action, text]
  have carried : carryOut Handler.scripted
      (Content.begin (.crossGuide ⟨⟨7, 3, true, false⟩, false, false, none⟩)) [.navigate 7 3]
      [.failed error] = (([], some (error.asAction (.navigate 7 3))), []) := rfl
  have ends : activate ⟨"no guide", "no action"⟩ ⟨false⟩ Handler.scripted
      (.crossGuide ⟨⟨7, 3, true, false⟩, false, false, none⟩) .none [.failed error] =
      (.error (.plain "ValueError"), .crossGuide ⟨⟨7, 3, true, false⟩, false, false, none⟩, []) := by
    have intents : (Content.crossGuide ⟨⟨7, 3, true, false⟩, false, false, none⟩).intents .none
        ⟨false⟩ = [.navigate 7 3] := rfl
    rw [activate, intents]
    simp only [carried, escapes]
    rfl
  simp only [ends, and_true]
  exact nofun

end GuideMarkup
