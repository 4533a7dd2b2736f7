import GuideMarkup.Config.Basic
import GuideMarkup.Data.Way
import GuideMarkup.Path
import GuideMarkup.Text.Blank
import GuideMarkup.Text.Lower

/-!
# Logging — which logging configuration is applied

    the host takes a configuration and a line is logged    ↦  applied
    the host takes it, but no line can be logged under it  ↦  applied all the same, and an error
    the host refuses it                                    ↦  an error

The configured logging is applied if it has a version, with the path of the log file put in, and
the minimal console logging if it has none.  An error that tells of an unusable configuration, be it
from loading or from applying it, is reported, and the minimal logging takes the place of what was
attempted; any other error escapes.
At the end the environment may ask for the debug level of single loggers.

Applying is the host's work, and so are the lines: `Host` says how each of them ends.
-/

namespace GuideMarkup
namespace Logging

open Data (Step Way)

/-! ## Configurations -/

/-- Logging to the console only. -/
def minimal : Data :=
  .object
    [("version", .int 1), ("disable_existing_loggers", .bool false),
      ("formatters", Packaged.logFormat),
      ("handlers", .object [("console", .object
        [("class", .text "logging.StreamHandler"), ("formatter", .text "simple"),
          ("level", .text "INFO")])]),
      ("root", .object [("level", .text "INFO"), ("handlers", .list [.text "console"])])]

/-- The way to the file handler. -/
def fileHandler : Way := [.field "handlers", .field "file"]

/-- The field of the file handler for the path of the log file. -/
def fileName : Key := "filename"

/-- The section under a user's file. -/
def sectionUnder (file : UserFile) : Except Misfit Fields :=
  Config.override Section.logging.packaged (some file)

/-! ## The user's file -/

/-- The way leads to an object that may be the file handler: the two are alike as far as they are
written out. -/
def isTwin (fields : Fields) (way : Way) : Bool :=
  match (Data.object fields).at? fileHandler, (Data.object fields).at? way with
  | some (.object handler), some (.object other) => Data.areAlikeFields handler other
  | _, _ => false

/-- **The places of the file handler in a section.**  One handler may stand at several places, and
even inside itself. -/
structure Stands (fields : Fields) (twins : List Way) : Prop where
  /-- The section is written out as far as the file handler. -/
  written : ∀ way ∈ [[Step.field "handlers"], fileHandler],
    ((Data.object fields).at? way).any Data.isInner = false
  /-- What stands elsewhere may be the file handler. -/
  alike : ∀ twin ∈ twins, isTwin fields twin = true
  /-- A place that putting the path in takes away is none of them. -/
  aside : ∀ twin ∈ twins, ∀ other ∈ fileHandler :: twins,
    (other ++ [Step.field fileName]).isPrefixOf twin = false

instance (fields : Fields) (twins : List Way) : Decidable (Stands fields twins) :=
  decidable_of_iff _
    ⟨fun ⟨written, alike, aside⟩ => ⟨written, alike, aside⟩,
      fun ⟨written, alike, aside⟩ => And.intro written (And.intro alike aside)⟩

/-- A user's file for the logging. -/
structure Override where
  file : UserFile
  /-- The ways to the other places where the file handler stands: it is one and the same object
  there, so that a change to it shows at all of them. -/
  twins : List Way
  stands : ∀ fields, sectionUnder file = .ok fields → Stands fields twins

/-- The user's file with the twins of its file handler, if they can be such. -/
def Override.of? (file : UserFile) (twins : List Way) : Option Override :=
  match loads : sectionUnder file with
  | .error _ => some ⟨file, twins, fun _ loaded => absurd (loads.symm.trans loaded) nofun⟩
  | .ok fields =>
    if stands : Stands fields twins then
      some ⟨file, twins, fun _ loaded => Except.ok.inj (loads.symm.trans loaded) ▸ stands⟩
    else none

/-! ## The configured logging -/

/-- The value is the name of the file handler. -/
def isFile : Data → Bool
  | .text name => name == "file"
  | _ => false

/-- There is a file handler among the handlers, which must be an object then, and so must it be. -/
def hasFile : Data → Except Misfit Bool
  | .object handlers =>
    match Fields.named? handlers "file" with
    | none => .ok false
    | some (.object _) => .ok true
    | some _ => .error .noMembers
  | .list items => if items.any isFile then .error .noMembers else .ok false
  | .pair first second => if isFile first || isFile second then .error .noMembers else .ok false
  | .set members => if members.contains (.text "file") then .error .noMembers else .ok false
  | .text s => if occursIn "file".toList s.toList then .error .noMembers else .ok false
  | _ => .error .noMembers

/-- The configured logging with the path of the log file put into the file handler, which shows
wherever the file handler stands. -/
def configured (path : String) (twins : List Way) (fields : Fields) : Except Misfit Data :=
  match fields.named? "handlers" with
  | none => .ok (.object fields)
  | some handlers => do
    if ← hasFile handlers then
      return Data.addAt fileName (.text path) (fileHandler :: twins) (.object fields)
    else return .object fields

/-- The configuration has a version. -/
def hasVersion (fields : Fields) : Bool :=
  ((fields.named? "version").bind Data.nonVoid?).isSome

/-! ## The host -/

/-- An error, by its class and the classes above it, nearest first. -/
structure HostError where
  name : String
  above : List String
deriving DecidableEq, Repr

namespace HostError

/-- The classes of errors that tell of an unusable configuration. -/
def contentClasses : List String :=
  ["ValueError", "TypeError", "AttributeError", "ImportError", "OSError"]

/-- The error tells of an unusable configuration. -/
def isOfContent (error : HostError) : Bool :=
  (error.name :: error.above).any contentClasses.contains

/-- A directory without a name cannot be made. -/
def noDirectory : HostError := ⟨"FileNotFoundError", ["OSError"]⟩

/-- The error of a value that does not exist. -/
def ofNoValue : NoValue → HostError
  | .noCharacter code =>
    if code < 2147483648 then ⟨"ValueError", []⟩ else ⟨"OverflowError", ["ArithmeticError"]⟩
  | .noNumber | .unrealMoment => ⟨"ValueError", []⟩
  | .emptyNumber => ⟨"IndexError", ["LookupError"]⟩
  | .tooLarge => ⟨"OverflowError", ["ArithmeticError"]⟩
  | .noTruth => ⟨"KeyError", ["LookupError"]⟩
  | .noMoment => ⟨"AttributeError", []⟩
  | .momentInside => ⟨"TypeError", []⟩

/-- The error of a value that cannot be used in its place. -/
def ofMisfit : Misfit → HostError
  | .noMembers | .notSingle | .notText => ⟨"TypeError", []⟩
  | .notPair | .overlong => ⟨"ValueError", []⟩
  | .wrongShape => ⟨"AttributeError", []⟩
  | .missing why => ofNoValue why

end HostError

/-- How the host answers an attempt to apply a configuration. -/
inductive Answer where
  /-- The configuration is applied, and a line is logged under it. -/
  | applied
  /-- The configuration is applied, but logging the line fails. -/
  | unlogged (error : HostError)
  | refused (error : HostError)
deriving DecidableEq, Repr

namespace Answer

/-- The configuration is applied. -/
def isApplied : Answer → Bool
  | .applied | .unlogged _ => true
  | .refused _ => false

/-- The error that the attempt ends with. -/
def error? : Answer → Option HostError
  | .applied => none
  | .unlogged error | .refused error => some error

end Answer

/-- What the host does during a set-up. -/
structure Host where
  /-- The answer to each attempt, by its number. -/
  answer : Nat → Answer
  /-- The error that reporting an unusable configuration ends with. -/
  reporting : Option HostError
  /-- The error that the line of each logger on the debug level ends with, by the logger's number. -/
  debugging : Nat → Option HostError

/-! ## Applying -/

/-- An attempt to apply a configuration. -/
structure Attempt where
  config : Data
  /-- It is made in place of what could not be used. -/
  isLast : Bool
  answer : Answer

/-- What became of applying a configuration. -/
structure Setup where
  /-- The attempts, in order. -/
  attempts : List Attempt
  /-- The configured logging was reported as unusable. -/
  reported : Bool
  escaped : Option HostError

/-- **The configurations that were applied**, in order. -/
def Setup.applied (setup : Setup) : List Data :=
  (setup.attempts.filter (·.answer.isApplied)).map (·.config)

/-- The minimal logging as a last resort, after the given attempts and a report. -/
def fallBack (host : Host) (before : List Attempt) : Setup :=
  match host.reporting with
  | some error => ⟨before, false, some error⟩
  | none =>
    let answer := host.answer before.length
    ⟨before ++ [⟨minimal, true, answer⟩], true, answer.error?⟩

/-- An attempt to apply a configuration; the minimal one takes the place of an unusable one. -/
def attempt (host : Host) (config : Data) : Setup :=
  let first : Attempt := ⟨config, false, host.answer 0⟩
  match first.answer.error? with
  | none => ⟨[first], false, none⟩
  | some error =>
    if error.isOfContent then fallBack host [first] else ⟨[first], false, some error⟩

/-- **The logging that a section asks for**, with the path of the log file. -/
def setUp (path : String) (twins : List Way) (fields : Fields) (host : Host) : Setup :=
  if hasVersion fields then
    match configured path twins fields with
    | .ok config => attempt host config
    | .error _ => fallBack host []
  else attempt host minimal

/-! ## Debugging -/

/-- The logger of the transformation. -/
def transformLogger : String := "ganymede_toolkit.core.transform"

/-- The texts that mean yes. -/
def yes : List String := ["1", "true", "yes", "on"]

/-- The setting means yes. -/
def isYes (setting : String) : Bool :=
  yes.contains (String.ofList (lower (trim setting.toList)))

/-- The names between the commas of a setting. -/
def loggerNames (setting : String) : List String :=
  (((pieces (· == ',') setting.toList).map trim).filter (!·.isEmpty)).map String.ofList

/-- **The loggers for which the environment asks for the debug level**, in order. -/
def targets (transformSetting moduleSetting : String) : List String :=
  (if isYes transformSetting then [transformLogger] else []) ++ loggerNames moduleSetting

/-- The loggers that get the debug level, the first of which has the given number, and the error
that ends it.  Each logs a line of its own as soon as it has the level. -/
def putOnDebug (host : Host) (number : Nat) : List String → List String × Option HostError
  | [] => ([], none)
  | name :: rest =>
    match host.debugging number with
    | some error => ([name], some error)
    | none =>
      let (others, error) := putOnDebug host (number + 1) rest
      (name :: others, error)

/-! ## The whole set-up -/

/-- What the environment says about logging. -/
structure Environment where
  directory : String
  transformSetting : String
  moduleSetting : String

namespace Environment

/-- The path of the log file. -/
def path (env : Environment) : String :=
  Path.inside env.directory "app.log"

/-- The loggers for which the debug level is asked. -/
def targets (env : Environment) : List String :=
  Logging.targets env.transformSetting env.moduleSetting

end Environment

/-- What a set-up of logging does. -/
structure Report where
  setup : Setup
  /-- The directories that must exist, outermost first. -/
  made : List String
  /-- The loggers that were put on the debug level, unless the set-up ended before. -/
  debugged : Option (List String)
  escaped : Option HostError

/-- The logging that is set up once the configuration was to be loaded.  If that has failed, there is
nothing to attempt. -/
def setUpLoaded (path : String) (twins : List Way) (loaded : Except HostError Fields)
    (host : Host) : Setup :=
  match loaded with
  | .ok fields => setUp path twins fields host
  | .error error => if error.isOfContent then fallBack host [] else ⟨[], false, some error⟩

/-- The set-up of logging with the given section of the configuration, if it could be loaded. -/
def settle (env : Environment) (twins : List Way) (loaded : Except HostError Fields)
    (host : Host) : Report :=
  if env.directory.isEmpty then
    ⟨⟨[], false, some .noDirectory⟩, [], none, some .noDirectory⟩
  else
    let setup := setUpLoaded env.path twins loaded host
    let made := Path.directories env.directory
    match setup.escaped with
    | some error => ⟨setup, made, none, some error⟩
    | none =>
      let (names, error) := putOnDebug host 0 env.targets
      ⟨setup, made, some names, error⟩

/-- **The set-up of logging in an environment**, under a user's file or none.  The other parts of the
configuration are taken to load. -/
def report (env : Environment) (override : Option Override) (host : Host) : Report :=
  let loaded := Config.override Section.logging.packaged (override.map (·.file))
  settle env ((override.map (·.twins)).getD []) (loaded.mapError .ofMisfit) host

end Logging
end GuideMarkup
