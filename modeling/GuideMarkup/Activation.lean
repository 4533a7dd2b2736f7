import GuideMarkup.Config.Basic
import GuideMarkup.Gesture
import GuideMarkup.Progress

/-!
# Activation — carrying out the intents of a node

    idle link  --begin-->  pending link  --settle-->  idle link, with the error of a failure

The intents of a gesture are handed to the host one after the other, up to the first that fails.  A
link to another guide is pending meanwhile, and afterwards shows the message of a failure.  The host
is a `Handler`: a function of the intent, the content at that moment and a state of its own, so that
it may do anything, also activate the same content again.

An error of the host is wrapped into a failure of the library, which tells what failed.  Both steps
ask the error for something, such as its text, and an error that they get instead of an answer goes
its own way: unless it is such a failure itself, there is no outcome at all.
-/

namespace GuideMarkup

/-! ## Failures -/

/-- What kind of failure it is. -/
inductive FailureKind where
  | general
  | unreadableMarkup
  /-- A download failed, of a guide that may be known. -/
  | download (guide : Option Int)
  | intent
deriving DecidableEq, Repr

/-- A failure with its wording and the wording of what caused it. -/
structure Failure where
  kind : FailureKind
  text : String
  cause : Option String
deriving DecidableEq, Repr

/-- **The message of a failure**: its text, after the guide it is about.  There is none if the number
of the guide is too long to be written. -/
def Failure.message? (failure : Failure) : Option String :=
  match failure.kind with
  | .download (some guide) =>
    if Numeral.isWritable guide then some ("[Guide: " ++ toString guide ++ "] " ++ failure.text)
    else none
  | _ => some failure.text

/-! ## Errors of the host -/

/-- What an error tells about an intent that failed, where each answer may be another error. -/
structure FailedIntent (ε : Type) where
  intent : Except ε (Option Intent)
  /-- The name of the cause. -/
  cause : Except ε (Option String)

/-- **An error with which a call of the host ends.**  Its class may be the host's own, so whatever the
error is asked for, the answer may be another error. -/
structure HandlerError where
  /-- The name of its class. -/
  name : String
  /-- Whether it can be made a text of; the text itself goes to the log only. -/
  text : Except HandlerError Unit
  /-- Whether it counts as something. -/
  isTrue : Except HandlerError Bool
  /-- The guide that it names, if it is a failed download. -/
  download : Option (Except HandlerError (Option Int))
  /-- What it tells about an intent, if it is a failed intent. -/
  action : Option (FailedIntent HandlerError)

/-- What a handler answers to an intent. -/
inductive Reply where
  | done
  /-- The answer is no; it means something for downloads only. -/
  | refused
  | failed (error : HandlerError)

/-- A host that carries out intents, with a state of its own. -/
abbrev Handler (σ : Type) := Intent → Content → σ → Reply × σ

namespace HandlerError

/-- An error of no particular kind. -/
def plain (name : String) : HandlerError :=
  ⟨name, .ok (), .ok true, none, none⟩

/-- A failed download of a guide that may be known. -/
def ofDownload (guide : Option Int) : HandlerError :=
  { plain "GuideDownloadError" with download := some (.ok guide) }

/-- A failed intent, with the name of its cause. -/
def ofIntent (intent : Option Intent) (cause : Except HandlerError (Option String)) :
    HandlerError :=
  { plain "IntentExecutionError" with action := some ⟨.ok intent, cause⟩ }

/-- A failure of the library's own kinds, raised by the host. -/
def ofFailure (failure : Failure) : HandlerError :=
  let text := if failure.message?.isSome then .ok () else .error (plain "ValueError")
  match failure.kind with
  | .general => { plain "GanymedeError" with text }
  | .unreadableMarkup => { plain "MarkupParseError" with text }
  | .download guide => { ofDownload guide with text }
  | .intent => { ofIntent none (.ok none) with text }

/-- The name of the error as a cause; an error that counts as nothing is no cause. -/
def asCause (error : HandlerError) : Except HandlerError (Option String) :=
  error.isTrue.map fun isTrue => if isTrue then some error.name else none

/-- The error as that of a download: any is taken for a failed download, unless its text, which goes
into the failure, ends with another error. -/
def asDownload (guide : Int) (error : HandlerError) : HandlerError :=
  match error.download, error.text with
  | some _, _ => error
  | none, .ok _ => ofDownload (some guide)
  | none, .error other => other

/-- The error as that of any other intent. -/
def asAction (intent : Intent) (error : HandlerError) : HandlerError :=
  match error.action, error.text with
  | some _, _ => error
  | none, .ok _ => ofIntent (some intent) error.asCause
  | none, .error other => other

end HandlerError

/-- The error that the answer to a download means: a refusal is one. -/
def downloadError (guide : Int) : Reply → Option HandlerError
  | .done => none
  | .refused => some (.ofDownload (some guide))
  | .failed error => some (error.asDownload guide)

/-- The error that the answer to any other intent means. -/
def actionError (intent : Intent) : Reply → Option HandlerError
  | .done | .refused => none
  | .failed error => some (error.asAction intent)

/-- **The error that an answer means**, if it means one. -/
def errorOf (intent : Intent) (reply : Reply) : Option HandlerError :=
  match intent with
  | .download guide => downloadError guide reply
  | _ => actionError intent reply

/-! ## Problems -/

/-- Why an activation was broken off. -/
inductive Problem where
  | downloadFailed (guide : Option Int)
  | intentFailed (intent : Option Intent) (cause : Option String)
deriving DecidableEq, Repr

/-- How an error ends an activation. -/
inductive Ending where
  /-- The reader is told about a problem. -/
  | problem (problem : Problem)
  /-- An error escapes; a link may show the message of a failed action by then. -/
  | escape (error : HandlerError) (isShown : Bool)

/-- **How an error ends an activation.**  A failed download and a failed intent are problems, if they
tell what there is to tell; everything else escapes. -/
def HandlerError.ending (error : HandlerError) : Ending :=
  match error.download, error.action with
  | some (.ok guide), _ => .problem (.downloadFailed guide)
  | some (.error other), _ => .escape other false
  | none, some ⟨.ok intent, .ok cause⟩ => .problem (.intentFailed intent cause)
  | none, some ⟨.ok _, .error other⟩ => .escape other true
  | none, some ⟨.error other, _⟩ => .escape other false
  | none, none => .escape error false

/-! ## Messages -/

/-- The messages for readers about failed activations. -/
structure Messages where
  downloadFailed : String
  actionFailed : String
deriving DecidableEq, Repr

namespace Messages

/-- The messages of a configuration, with those given put over them. -/
def ofConfig (config : Config) (given : Table String String) : Except Misfit Messages := do
  let downloadFailed ← config.message "download_failed"
    "Could not download the guide. Try again later."
  let actionFailed ← config.message "action_failed" "The action could not be completed."
  return ⟨(given.lookup "download_failed").getD downloadFailed,
    (given.lookup "action_failed").getD actionFailed⟩

/-- The message about a problem. -/
def about (messages : Messages) : Problem → String
  | .downloadFailed _ => messages.downloadFailed
  | .intentFailed .. => messages.actionFailed

end Messages

/-! ## Activation -/

/-- What became of an activation: the intents carried out, in order, and the problem that broke it
off, with its message. -/
structure Outcome where
  executed : List Intent
  problem : Option (Problem × String)
deriving DecidableEq, Repr

namespace Outcome

/-- Every intent was carried out. -/
def success (outcome : Outcome) : Bool :=
  outcome.problem.isNone

/-- The message for the reader; empty after a success. -/
def message (outcome : Outcome) : String :=
  (outcome.problem.map (·.2)).getD ""

end Outcome

namespace Content

/-- The content while an activation is going on. -/
def begin : Content → Content
  | .crossGuide cross => .crossGuide { cross with pending := true, error := none }
  | content => content

/-- The content after an activation that ended with the given message, if any. -/
def settle (message : Option String) : Content → Content
  | .crossGuide cross => .crossGuide { cross with pending := false, error := message }
  | content => content

end Content

variable {σ : Type}

/-- The intents handed over one after the other, up to the first error: those carried out, and the
error. -/
def carryOut (handler : Handler σ) (live : Content) :
    List Intent → σ → (List Intent × Option HandlerError) × σ
  | [], state => (([], none), state)
  | intent :: rest, state =>
    let (reply, after) := handler intent live state
    match errorOf intent reply with
    | some error => (([], some error), after)
    | none =>
      let ((executed, error), last) := carryOut handler live rest after
      ((intent :: executed, error), last)

/-- What the intents that were carried out, and the error, come to: the outcome, unless an error
escapes, and the message that a link shows. -/
def conclude (messages : Messages) (executed : List Intent) :
    Option HandlerError → Except HandlerError Outcome × Option String
  | none => (.ok ⟨executed, none⟩, none)
  | some error =>
    match error.ending with
    | .problem problem =>
      let message := messages.about problem
      (.ok ⟨executed, some (problem, message)⟩, some message)
    | .escape other isShown => (.error other, if isShown then some messages.actionFailed else none)

/-- **A content activated**: what became of it, the content afterwards, and the state of the
handler.  A gesture without intents changes nothing. -/
def activate (messages : Messages) (platform : Platform) (handler : Handler σ) (content : Content)
    (keys : Modifiers) (state : σ) : Except HandlerError Outcome × Content × σ :=
  match content.intents keys platform with
  | [] => (.ok ⟨[], none⟩, content, state)
  | intents =>
    let ((executed, error), after) := carryOut handler content.begin intents state
    let (outcome, message) := conclude messages executed error
    (outcome, content.settle message, after)

/-! ## The reader's own handler -/

/-- The handler that toggles boxes in the reader's progress and does nothing else. -/
def Progress.handler : Handler Progress
  | .toggle guide step index, _, progress => (.done, progress.toggle guide step index)
  | _, _, progress => (.done, progress)

end GuideMarkup
