import GuideMarkup.Logging

/-!
# Proofs/Applying — which logging configuration ends up applied

    first attempt ──applied──▸ done
          │ an error that tells of an unusable configuration, or nothing to attempt
          ▾
       report ──▸ minimal configuration ──applied──▸ done          any other error escapes

`Report.Settles` says what a set-up comes to, whatever the user's file holds and the host does: at
most two attempts, one applied configuration or an error that everyone sees, and the debug level for
all loggers that the environment names unless an error escapes.  What is applied is the minimal
configuration or the section with the path in its file handler (`PutsPath`).

An attempt ends only when a line has been logged under the new configuration.  So one that was
applied may still turn out to be unusable; then two configurations are applied, the second on top of
the first.
-/

namespace GuideMarkup
namespace Logging

open Data (Step Way)

/-! ## The path in the file handler -/

/-- **The configuration is the section with the path in the file handler**, if it has one.  The
handler stands again at the ends of the given ways, and nothing changes elsewhere. -/
structure PutsPath (path : String) (twins : List Way) (fields : Fields) (config : Data) :
    Prop where
  /-- Without a file handler nothing changes at all. -/
  absent : (Data.object fields).at? fileHandler = none → config = .object fields
  /-- The file handler has the path. -/
  present : (Data.object fields).at? fileHandler ≠ none →
    config.at? (fileHandler ++ [.field fileName]) = some (.text path)
  /-- So it has where it stands again. -/
  again : ∀ twin ∈ twins, config.at? (twin ++ [.field fileName]) = some (.text path)
  elsewhere : ∀ way : Way,
    (∀ other ∈ fileHandler :: twins, way.apart (other ++ [.field fileName]) = true) →
      config.at? way = (Data.object fields).at? way

theorem exists_at?_of_isTwin {fields : Fields} {way : Way} (twin : isTwin fields way = true) :
    (Data.object fields).at? fileHandler ≠ none ∧
      ∃ handler, (Data.object fields).at? way = some (.object handler) := by
  rw [isTwin] at twin
  split at twin
  · exact ⟨by simp_all, _, ‹_›⟩
  · exact absurd twin Bool.false_ne_true

theorem at?_fileHandler (fields : Fields) :
    (Data.object fields).at? fileHandler =
      (fields.named? "handlers").bind fun handlers => handlers.part? (.field "file") := by
  rw [fileHandler, Data.at?, Data.part?, ← Fields.named?]
  exact congrArg _ (funext fun handlers => Data.at?_singleton handlers _)

/-- There is a file handler to put the path into, or there is none. -/
theorem part?_of_hasFile {handlers : Data} {found : Bool} (has : hasFile handlers = .ok found) :
    (found = true ∧ ∃ handler, handlers.part? (.field "file") = some (.object handler)) ∨
      (found = false ∧ handlers.part? (.field "file") = none) := by
  cases handlers with
  | object fields =>
    rw [hasFile] at has
    rw [Data.part?, ← Fields.named?]
    split at has
    · exact .inr ⟨(Except.ok.inj has).symm, ‹_›⟩
    · exact .inl ⟨(Except.ok.inj has).symm, _, ‹_›⟩
    · cases has
  | list _ | pair _ _ | set _ | text _ =>
    rw [hasFile] at has
    split at has
    · cases has
    · exact .inr ⟨(Except.ok.inj has).symm, rfl⟩
  | _ => cases has

variable {path : String} {twins : List Way} {fields : Fields}

theorem PutsPath.self (stands : Stands fields twins)
    (absent : (Data.object fields).at? fileHandler = none) :
    PutsPath path twins fields (.object fields) where
  absent _ := rfl
  present present := absurd absent present
  again twin member := absurd absent (exists_at?_of_isTwin (stands.alike twin member)).1
  elsewhere _ _ := rfl

theorem PutsPath.addAt {handler : Fields} (stands : Stands fields twins)
    (present : (Data.object fields).at? fileHandler = some (.object handler)) :
    PutsPath path twins fields
      (Data.addAt fileName (.text path) (fileHandler :: twins) (.object fields)) where
  absent none := by
    rw [present] at none
    exact absurd none nofun
  present _ := by
    have others : ∀ step ∈ fileHandler, (step == .field fileName) = false := by decide
    exact Data.at?_addAt_append List.mem_cons_self
      (fun other _ => Way.isPrefixOf_append_singleton other others) present
  again twin member := by
    obtain ⟨-, handler, found⟩ := exists_at?_of_isTwin (stands.alike twin member)
    exact Data.at?_addAt_append (List.mem_cons_of_mem fileHandler member)
      (stands.aside twin member) found
  elsewhere way apart := Data.at?_addAt_of_apart apart

theorem putsPath_of_configured {config : Data} (stands : Stands fields twins)
    (made : configured path twins fields = .ok config) : PutsPath path twins fields config := by
  rw [configured] at made
  split at made
  · obtain rfl := Except.ok.inj made
    exact .self stands
      (by rw [at?_fileHandler, ‹fields.named? "handlers" = none›, Option.bind_none])
  · rename_i handlers named
    cases has : hasFile handlers with
    | error misfit => rw [has] at made; exact absurd made nofun
    | ok found =>
      rw [has] at made
      rcases part?_of_hasFile has with ⟨rfl, handler, present⟩ | ⟨rfl, absent⟩
      · obtain rfl := Except.ok.inj made
        exact .addAt stands (by rw [at?_fileHandler, named, Option.bind_some, present])
      · obtain rfl := Except.ok.inj made
        exact .self stands (by rw [at?_fileHandler, named, Option.bind_some, absent])

/-! ## The course of a set-up -/

/-- What may be attempted first: the configured logging, or the minimal one if the section has no
version. -/
def IsFirst (path : String) (twins : List Way) (fields : Fields) (config : Data) : Prop :=
  if hasVersion fields then PutsPath path twins fields config else config = minimal

/-- Nothing was attempted yet, or the first attempt, which showed that its configuration cannot be
used. -/
inductive Fails (host : Host) (first : Data → Prop) : List Attempt → Prop where
  | atOnce : Fails host first []
  | attempted {config : Data} {error : HostError} (isFirst : first config)
    (failed : (host.answer 0).error? = some error) (ofContent : error.isOfContent = true) :
    Fails host first [⟨config, false, host.answer 0⟩]

/-- **How a set-up can go.** -/
inductive Course (host : Host) (first : Data → Prop) : Setup → Prop where
  | applied {config : Data} (isFirst : first config) (applied : host.answer 0 = .applied) :
    Course host first ⟨[⟨config, false, .applied⟩], false, none⟩
  | ended {config : Data} {error : HostError} (isFirst : first config)
    (failed : (host.answer 0).error? = some error) (other : error.isOfContent = false) :
    Course host first ⟨[⟨config, false, host.answer 0⟩], false, some error⟩
  | unreported {before : List Attempt} {error : HostError} (fails : Fails host first before)
    (silent : host.reporting = some error) : Course host first ⟨before, false, some error⟩
  | replaced {before : List Attempt} (fails : Fails host first before)
    (reported : host.reporting = none) :
    Course host first ⟨before ++ [⟨minimal, true, host.answer before.length⟩], true,
      (host.answer before.length).error?⟩

section Courses

variable {host : Host} {first : Data → Prop}

theorem Answer.eq_applied_of_error? {answer : Answer} (none : answer.error? = none) :
    answer = .applied := by
  cases answer with
  | applied => rfl
  | unlogged error | refused error => exact absurd none nofun

theorem course_fallBack {before : List Attempt} (fails : Fails host first before) :
    Course host first (fallBack host before) := by
  cases reporting : host.reporting with
  | none =>
    rw [fallBack, reporting]
    exact .replaced fails reporting
  | some error =>
    rw [fallBack, reporting]
    exact .unreported fails reporting

theorem course_attempt {config : Data} (isFirst : first config) :
    Course host first (attempt host config) := by
  cases failed : (host.answer 0).error? with
  | none =>
    have applied := Answer.eq_applied_of_error? failed
    simp only [attempt, applied]
    exact .applied isFirst applied
  | some error =>
    cases ofContent : error.isOfContent with
    | false =>
      simp only [attempt, failed, ofContent, Bool.false_eq_true, ↓reduceIte]
      exact .ended isFirst failed ofContent
    | true =>
      simp only [attempt, failed, ofContent, ↓reduceIte]
      exact course_fallBack (.attempted isFirst failed ofContent)

theorem course_setUp (stands : Stands fields twins) (path : String) (host : Host) :
    Course host (IsFirst path twins fields) (setUp path twins fields host) := by
  rw [setUp]
  by_cases version : hasVersion fields = true
  · rw [if_pos version]
    cases made : configured path twins fields with
    | error misfit => exact course_fallBack .atOnce
    | ok config =>
      refine course_attempt ?_
      rw [IsFirst, if_pos version]
      exact putsPath_of_configured stands made
  · rw [if_neg version]
    refine course_attempt ?_
    rw [IsFirst, if_neg version]

end Courses

/-! ## What a set-up comes to -/

/-- What was attempted first, if anything, turned out to be unusable. -/
def Setup.IsUnusable (setup : Setup) : Prop :=
  ∀ attempt ∈ setup.attempts, attempt.isLast = false →
    ∃ error, attempt.answer.error? = some error ∧ error.isOfContent = true

/-- **What applying a configuration comes to**, where the first one that may be attempted is
given. -/
structure Setup.Settles (host : Host) (first : Data → Prop) (setup : Setup) : Prop where
  length_attempts_le : setup.attempts.length ≤ 2
  /-- Every attempt gets the answer to its number. -/
  answered : setup.attempts.map (·.answer) = (List.range setup.attempts.length).map host.answer
  first_of_not_isLast : ∀ attempt ∈ setup.attempts, attempt.isLast = false →
    setup.attempts.head? = some attempt ∧ first attempt.config
  /-- Only the last attempt is made in place of what could not be used: with the minimal
  configuration. -/
  minimal_of_isLast : ∀ attempt ∈ setup.attempts, attempt.isLast = true →
    setup.attempts.getLast? = some attempt ∧ attempt.config = minimal
  /-- It is made just if there is need of it, and the report of this need ends well. -/
  exists_isLast_iff : (∃ attempt ∈ setup.attempts, attempt.isLast = true) ↔
    setup.IsUnusable ∧ host.reporting = none
  /-- If nothing escapes, one configuration was applied, unless a line could not be logged. -/
  applied_once : setup.escaped = none →
    (∀ attempt ∈ setup.attempts, ∀ error, attempt.answer ≠ .unlogged error) →
      ∃ config, setup.applied = [config] ∧ (first config ∨ config = minimal)
  /-- Then the minimal one was applied on top of it. -/
  applied_twice : setup.escaped = none →
    ∀ attempt ∈ setup.attempts, ∀ error, attempt.answer = .unlogged error →
      error.isOfContent = true ∧ ∃ config, setup.applied = [config, minimal] ∧ first config
  /-- What escapes is the error of a report, one of the first attempt that does not tell of an
  unusable configuration, or any one of the last attempt. -/
  escaped_iff : ∀ error, setup.escaped = some error ↔
    (setup.IsUnusable ∧ host.reporting = some error) ∨
      ∃ attempt ∈ setup.attempts, attempt.answer.error? = some error ∧
        (attempt.isLast = true ∨ error.isOfContent = false)

section Outcomes

variable {host : Host} {first : Data → Prop} {config : Data} {error : HostError}

theorem Setup.settles_applied (isFirst : first config) (applied : host.answer 0 = .applied) :
    Setup.Settles host first ⟨[⟨config, false, .applied⟩], false, none⟩ where
  length_attempts_le := by simp
  answered := by simp [applied]
  first_of_not_isLast := by simpa using isFirst
  minimal_of_isLast := by simp
  exists_isLast_iff := by simp [IsUnusable, Answer.error?]
  applied_once _ _ := ⟨config, rfl, .inl isFirst⟩
  applied_twice := by simp
  escaped_iff := by simp [IsUnusable, Answer.error?]

theorem Setup.settles_ended (isFirst : first config)
    (failed : (host.answer 0).error? = some error) (other : error.isOfContent = false) :
    Setup.Settles host first ⟨[⟨config, false, host.answer 0⟩], false, some error⟩ where
  length_attempts_le := by simp
  answered := by simp
  first_of_not_isLast := by simpa using isFirst
  minimal_of_isLast := by simp
  exists_isLast_iff := by simp [IsUnusable, failed, other]
  applied_once none := absurd none nofun
  applied_twice none := absurd none nofun
  escaped_iff escaping := by
    suffices error = escaping → escaping.isOfContent = false by
      simpa [IsUnusable, failed, other]
    rintro rfl
    exact other

/-- An error that tells of an unusable configuration is none that does not. -/
theorem not_escapes_of_isOfContent (ofContent : error.isOfContent = true) (escaping : HostError)
    (same : error = escaping) : ¬escaping.isOfContent = false := by
  simp [← same, ofContent]

theorem Setup.settles_unreported {before : List Attempt} (fails : Fails host first before)
    (silent : host.reporting = some error) :
    Setup.Settles host first ⟨before, false, some error⟩ where
  length_attempts_le := by cases fails <;> simp
  answered := by cases fails <;> simp
  first_of_not_isLast := by cases fails <;> simp_all
  minimal_of_isLast := by cases fails <;> simp
  exists_isLast_iff := by cases fails <;> simp [silent]
  applied_once none := absurd none nofun
  applied_twice none := absurd none nofun
  escaped_iff escaping := by
    cases fails with
    | atOnce => simp [IsUnusable, silent]
    | attempted isFirst failed ofContent =>
      have stays := not_escapes_of_isOfContent ofContent escaping
      simpa [IsUnusable, silent, failed, ofContent] using
        fun same other => absurd other (stays same)

theorem Setup.settles_lastResort (reported : host.reporting = none) :
    Setup.Settles host first
      ⟨[⟨minimal, true, host.answer 0⟩], true, (host.answer 0).error?⟩ where
  length_attempts_le := by simp
  answered := by simp
  first_of_not_isLast := by simp
  minimal_of_isLast := by simp
  exists_isLast_iff := by simp [IsUnusable, reported]
  applied_once none _ := by
    have last : host.answer 0 = .applied := Answer.eq_applied_of_error? none
    exact ⟨minimal, by simp [applied, last, Answer.isApplied], .inr rfl⟩
  applied_twice none := by
    have last : host.answer 0 = .applied := Answer.eq_applied_of_error? none
    simp [last]
  escaped_iff := by simp [reported]

theorem Setup.settles_replaced (isFirst : first config)
    (failed : (host.answer 0).error? = some error) (ofContent : error.isOfContent = true)
    (reported : host.reporting = none) :
    Setup.Settles host first
      ⟨[⟨config, false, host.answer 0⟩, ⟨minimal, true, host.answer 1⟩], true,
        (host.answer 1).error?⟩ where
  length_attempts_le := by simp
  answered := by simp [List.range_succ]
  first_of_not_isLast := by simpa using isFirst
  minimal_of_isLast := by simp
  exists_isLast_iff := by simp [IsUnusable, reported, failed, ofContent]
  applied_once none unlogged := by
    have last : host.answer 1 = .applied := Answer.eq_applied_of_error? none
    have logged := unlogged _ List.mem_cons_self
    cases answer : host.answer 0 with
    | applied => simp [answer, Answer.error?] at failed
    | unlogged error => exact absurd answer (logged error)
    | refused error =>
      exact ⟨minimal, by simp [applied, last, Answer.isApplied], .inr rfl⟩
  applied_twice none attempt member unlogging isUnlogged := by
    have last : host.answer 1 = .applied := Answer.eq_applied_of_error? none
    rcases List.mem_cons.mp member with rfl | member
    · have answer : host.answer 0 = .unlogged unlogging := isUnlogged
      obtain rfl : unlogging = error := Option.some.inj (by rwa [answer] at failed)
      exact ⟨ofContent, config, by simp [applied, answer, last, Answer.isApplied], isFirst⟩
    · obtain rfl := List.mem_singleton.mp member
      exact absurd (last.symm.trans isUnlogged) nofun
  escaped_iff escaping := by
    have stays := not_escapes_of_isOfContent ofContent escaping
    simpa [reported, failed] using fun same other => absurd other (stays same)

theorem Course.settles {setup : Setup} (course : Course host first setup) :
    setup.Settles host first := by
  cases course with
  | applied isFirst applied => exact Setup.settles_applied isFirst applied
  | ended isFirst failed other => exact Setup.settles_ended isFirst failed other
  | unreported fails silent => exact Setup.settles_unreported fails silent
  | replaced fails reported =>
    cases fails with
    | atOnce => exact Setup.settles_lastResort reported
    | attempted isFirst failed ofContent =>
      exact Setup.settles_replaced isFirst failed ofContent reported

end Outcomes

/-! ## Debugging -/

/-- **Which loggers get the debug level**, and the error that ends it: all of them, or those up to
the first one the line of which cannot be logged. -/
inductive Debugs (host : Host) (names : List String) :
    List String → Option HostError → Prop where
  | all (logged : ∀ number < names.length, host.debugging number = none) :
    Debugs host names names none
  | upTo {number : Nat} {error : HostError} (inside : number < names.length)
    (logged : ∀ earlier < number, host.debugging earlier = none)
    (fails : host.debugging number = some error) :
    Debugs host names (names.take (number + 1)) (some error)

/-- The same for loggers of which the first has the given number. -/
theorem putOnDebug_cases (host : Host) (names : List String) : ∀ start,
    ((∀ number < names.length, host.debugging (start + number) = none) ∧
      putOnDebug host start names = (names, none)) ∨
    ∃ number < names.length, ∃ error,
      (∀ earlier < number, host.debugging (start + earlier) = none) ∧
        host.debugging (start + number) = some error ∧
        putOnDebug host start names = (names.take (number + 1), some error) := by
  induction names with
  | nil => exact fun start => .inl ⟨by simp, rfl⟩
  | cons name rest ih =>
    intro start
    cases here : host.debugging start with
    | some error => exact .inr ⟨0, by simp, error, by simp, here, by simp [putOnDebug, here]⟩
    | none =>
      have later (number : Nat) : start + 1 + number = start + (number + 1) := by omega
      have before {length : Nat}
          (logged : ∀ number < length, host.debugging (start + 1 + number) = none) :
          ∀ number < length + 1, host.debugging (start + number) = none := by
        rintro (_ | number) inside
        · exact here
        · rw [← later]
          exact logged number (by omega)
      rcases ih (start + 1) with ⟨logged, puts⟩ | ⟨number, inside, error, logged, fails, puts⟩
      · exact .inl ⟨before logged, by simp [putOnDebug, here, puts]⟩
      · exact .inr ⟨number + 1, by simpa using inside, error, before logged,
          by rw [← later, fails], by simp [putOnDebug, here, puts]⟩

theorem debugs_putOnDebug (host : Host) (names : List String) :
    Debugs host names (putOnDebug host 0 names).1 (putOnDebug host 0 names).2 := by
  have cases := putOnDebug_cases host names 0
  simp only [Nat.zero_add] at cases
  rcases cases with ⟨logged, puts⟩ | ⟨number, inside, error, logged, fails, puts⟩
  · rw [puts]
    exact .all logged
  · rw [puts]
    exact .upTo inside logged fails

/-! ## The whole set-up -/

/-- **What a whole set-up comes to**, with the section that is configured. -/
structure Report.Settles (env : Environment) (twins : List Way) (fields : Fields) (host : Host)
    (report : Report) : Prop where
  setup : report.setup.Settles host (IsFirst env.path twins fields)
  /-- If an error has escaped, it ends the set-up, and no logger gets the debug level. -/
  ended : ∀ error, report.setup.escaped = some error →
    report.escaped = some error ∧ report.debugged = none
  /-- Otherwise the loggers get it that the environment names. -/
  debugs : report.setup.escaped = none →
    ∃ names, report.debugged = some names ∧ Debugs host env.targets names report.escaped

/-- If nothing escapes, all of them get it. -/
theorem Report.Settles.debugged {env : Environment} {host : Host} {report : Report}
    (settles : report.Settles env twins fields host) (none : report.escaped = none) :
    report.debugged = some env.targets := by
  cases escaped : report.setup.escaped with
  | some error => exact absurd ((settles.ended error escaped).1.symm.trans none) nofun
  | none =>
    obtain ⟨names, debugged, debugs⟩ := settles.debugs escaped
    rw [none] at debugs
    cases debugs with
    | all logged => exact debugged

theorem settles_settle {env : Environment} (creatable : env.directory ≠ "")
    (stands : Stands fields twins) (host : Host) :
    (settle env twins (.ok fields) host).Settles env twins fields host := by
  have named : env.directory.isEmpty = false := by
    rw [Bool.eq_false_iff]
    exact mt String.isEmpty_iff.mp creatable
  have setup := (course_setUp stands env.path host).settles
  rw [settle, named, if_neg Bool.false_ne_true, setUpLoaded]
  cases escaped : (setUp env.path twins fields host).escaped with
  | some error =>
    simp only [escaped]
    exact
      { setup := setup
        ended := fun other same => ⟨escaped ▸ same, rfl⟩
        debugs := fun none => absurd (escaped.symm.trans none) nofun }
  | none =>
    simp only [escaped]
    exact
      { setup := setup
        ended := fun error same => absurd (escaped.symm.trans same) nofun
        debugs := fun _ => ⟨_, rfl, debugs_putOnDebug host env.targets⟩ }

theorem stands_packaged : Stands Section.logging.packaged [] := by
  decide

/-- **A set-up ends in applied logging or in an error that everyone sees**, for every user's file
that loads and whatever the host does. -/
theorem settles_report (env : Environment) (override : Option Override) (host : Host)
    {fields : Fields} (creatable : env.directory ≠ "")
    (loads : Config.override Section.logging.packaged (override.map (·.file)) = .ok fields) :
    (report env override host).Settles env ((override.map (·.twins)).getD []) fields host ∧
      ((report env override host).escaped = none →
        (report env override host).debugged = some env.targets) := by
  have stands : Stands fields ((override.map (·.twins)).getD []) := by
    cases override with
    | none =>
      obtain ⟨⟩ := loads
      exact stands_packaged
    | some override => exact override.stands fields loads
  have settles := settles_settle creatable stands host
  rw [report, loads]
  exact ⟨settles, settles.debugged⟩

/-! ### A handler under two names, and a host with troubles -/

/-- A handler for files, without a path. -/
def pathless : Data :=
  .object [("class", .text "logging.FileHandler")]

/-- The fields of a file in which the file handler stands again as `audit`. -/
def twoNamesFields : Fields :=
  [("handlers", .object [("file", pathless), ("audit", pathless)])]

/-- The way to the second handler. -/
def auditHandler : Way := [.field "handlers", .field "audit"]

/-- The way to a path in the second handler. -/
def auditFileName : Way := auditHandler ++ [.field fileName]

/-- The section under this file. -/
def twoNamesSection : Fields :=
  Section.logging.packaged.update twoNamesFields

theorem sectionUnder_twoNames :
    sectionUnder (.holds (.object twoNamesFields)) = .ok twoNamesSection := by
  rfl

/-- A user's file in which the file handler stands again as `audit`. -/
def twoNames : Override where
  file := .holds (.object twoNamesFields)
  twins := [auditHandler]
  stands fields loads := by
    obtain rfl := Except.ok.inj (sectionUnder_twoNames.symm.trans loads)
    decide

/-- An environment that does not ask for the debug level. -/
def plainEnvironment : Environment :=
  ⟨"logs", "", ""⟩

/-- A host on which everything ends well, but for the answers to the first attempts. -/
def Host.after (answers : List Answer) : Host :=
  ⟨fun number => answers.getD number .applied, none, fun _ => none⟩

/-- A filter that is no filter: a line cannot be logged under it. -/
def spoiledLine : Answer :=
  .unlogged ⟨"TypeError", []⟩

/-- The set-up with this file, where no line can be logged under it. -/
def spoiledReport : Report :=
  report plainEnvironment (some twoNames) (.after [spoiledLine])

/-- The minimal logging is applied on top of the user's, the handlers of which have the path. -/
theorem settles_report_twoNames : plainEnvironment.directory ≠ "" ∧
    Config.override Section.logging.packaged ((some twoNames).map (·.file)) =
      .ok twoNamesSection ∧
    spoiledReport.Settles plainEnvironment [auditHandler] twoNamesSection (.after [spoiledLine]) ∧
    spoiledReport.debugged = some plainEnvironment.targets ∧
    ∃ config, spoiledReport.setup.applied = [config, minimal] ∧
      config.at? auditFileName = some (.text "logs/app.log") := by
  have creatable : plainEnvironment.directory ≠ "" := by decide
  obtain ⟨settles, debugged⟩ :=
    settles_report plainEnvironment (some twoNames) (.after [spoiledLine]) creatable
      sectionUnder_twoNames
  obtain ⟨-, config, applied, isFirst⟩ :=
    settles.setup.applied_twice rfl _ List.mem_cons_self _ rfl
  have versioned : hasVersion twoNamesSection = true := by rfl
  rw [IsFirst, if_pos versioned] at isFirst
  exact ⟨creatable, sectionUnder_twoNames, settles, debugged rfl, config, applied,
    isFirst.again auditHandler List.mem_cons_self⟩

/-- The set-up as it goes where no value stands at two places and nothing but the attempts can
fail. -/
structure Report.SettlesPlainly (env : Environment) (fields : Fields) (report : Report) :
    Prop where
  length_attempts_le : report.setup.attempts.length ≤ 2
  applied : report.escaped = none → ∃ config, report.setup.applied = [config] ∧
    (PutsPath env.path [] fields config ∨ config = minimal)
  escaped_iff : report.escaped ≠ none ↔ ∃ attempt ∈ report.setup.attempts, ∃ error,
    attempt.answer = .refused error ∧ (attempt.isLast = true ∨ error.isOfContent = false)
  debugged_iff : report.debugged = some env.targets ↔ report.escaped = none

/-- **A set-up need not go plainly.**  A handler without a path may be applied with one; a line that
cannot be logged makes two configurations be applied; and an error in the report or in the line of a
logger escapes, though no attempt was refused for good. -/
theorem not_settles_twoNames :
    ¬(report plainEnvironment (some twoNames) (.after [])).SettlesPlainly plainEnvironment
      twoNamesSection ∧
    ¬(report plainEnvironment none (.after [spoiledLine])).SettlesPlainly plainEnvironment
      Section.logging.packaged ∧
    ¬(report plainEnvironment none ⟨fun _ => .refused ⟨"ValueError", []⟩,
        some ⟨"RuntimeError", []⟩, fun _ => none⟩).SettlesPlainly plainEnvironment
      Section.logging.packaged ∧
    ¬(report ⟨"logs", "yes", ""⟩ none ⟨fun _ => .applied, none,
        fun _ => some ⟨"TypeError", []⟩⟩).SettlesPlainly ⟨"logs", "yes", ""⟩
      Section.logging.packaged := by
  refine ⟨fun plainly => ?_, fun plainly => ?_, fun plainly => ?_, fun plainly => ?_⟩
  · obtain ⟨config, applied, isConfig⟩ := plainly.applied rfl
    have named : [config].map (fun config => (config.at? auditFileName).isSome) = [true] := by
      rw [← applied]
      rfl
    have unnamed : config.at? auditFileName = none := by
      rcases isConfig with puts | rfl
      · rw [puts.elsewhere auditFileName (by decide)]
        rfl
      · rfl
    rw [List.map_singleton, unnamed] at named
    exact absurd named (by decide)
  · obtain ⟨config, applied, -⟩ := plainly.applied rfl
    have twice : 2 = [config].length := congrArg List.length applied
    exact absurd twice (by simp)
  · obtain ⟨attempt, member, error, refused, goes⟩ := plainly.escaped_iff.mp nofun
    obtain rfl := List.mem_singleton.mp member
    obtain ⟨⟩ := refused
    exact absurd goes (by decide)
  · obtain ⟨attempt, member, error, refused, -⟩ := plainly.escaped_iff.mp nofun
    obtain rfl := List.mem_singleton.mp member
    exact absurd refused nofun

end Logging
end GuideMarkup
