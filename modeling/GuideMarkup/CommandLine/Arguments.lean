import GuideMarkup.CommandLine.Option
import GuideMarkup.Data.Basic
import GuideMarkup.Numeral

/-!
# CommandLine/Arguments — reading the arguments of the command

All arguments are classified first, so that an ambiguous one is refused even if the command would
have ended before it.  Then they are taken from left to right.  The mark `--` must stand next to the
file name; as the value of an option it is a blank.
-/

namespace GuideMarkup

/-- What the command is asked to do. -/
structure Arguments where
  file : String
  guide : Option Entry
  step : Option Entry
  steps : Option Entry
  lang : String
  mac : Bool
  disabled : Bool
  autoTravel : Bool
deriving DecidableEq, Repr

namespace Arguments

/-! ## Taking -/

/-- The arguments taken so far. -/
structure Taken where
  file : Option String
  /-- Some argument belongs nowhere. -/
  surplus : Bool
  arguments : Arguments

/-- Nothing has been taken. -/
def Taken.start : Taken :=
  ⟨none, false, ⟨"", none, none, none, "fr", false, false, false⟩⟩

/-- A word taken: the first one is the file. -/
def Taken.addWord (s : String) (taken : Taken) : Taken :=
  match taken.file with
  | none => { taken with file := some s }
  | some _ => { taken with surplus := true }

/-- The mark that leaves the value of an option blank. -/
def blankMark : String := "--"

/-- A value that must be an integer, or blank. -/
def entryValue (s : String) : Except EarlyExit Entry :=
  if s == blankMark then .ok .blank
  else match wholeInt? s with
    | some n => .ok (.number n)
    | none => .error .usage

/-- A value that may be any text.  A blank one is written as an empty list. -/
def textValue (s : String) : String :=
  if s == blankMark then "[]" else s

/-- An option with its value taken. -/
def takeValue (option : CommandOption) (value : String) (a : Arguments) :
    Except EarlyExit Arguments :=
  match option with
  | .guide => do return { a with guide := some (← entryValue value) }
  | .step => do return { a with step := some (← entryValue value) }
  | .steps => do return { a with steps := some (← entryValue value) }
  | .lang => .ok { a with lang := textValue value }
  | _ => .error .usage

/-- A switch taken. -/
def takeSwitch (option : CommandOption) (a : Arguments) : Except EarlyExit Arguments :=
  match option with
  | .shortHelp | .help => .error .help
  | .version => .error .version
  | .mac => .ok { a with mac := true }
  | .disabled => .ok { a with disabled := true }
  | .autoTravel => .ok { a with autoTravel := true }
  | _ => .error .usage

/-- The short help switch with more letters after it, all of which must be the same switch. -/
def isHelpRun (s : List Char) : Bool :=
  !s.isEmpty && s.all (· == 'h')

/-- **The arguments taken from left to right.** -/
def take : List (ArgumentKind × String) → Taken → Except EarlyExit Taken
  | [], taken => .ok taken
  | (.word, s) :: (.separator, _) :: rest, taken => take rest (taken.addWord s)
  | (.word, s) :: rest, taken => take rest (taken.addWord s)
  | (.separator, _) :: rest, taken =>
    take rest { taken with surplus := taken.surplus || taken.file.isSome }
  | (.unknown, _) :: rest, taken => take rest { taken with surplus := true }
  | (.option option (some value), _) :: rest, taken =>
    if option.takesValue then do
      take rest { taken with arguments := ← takeValue option (String.ofList value) taken.arguments }
    else if option = .shortHelp ∧ isHelpRun value then .error .help
    else .error .usage
  | (.option option none, _) :: rest, taken =>
    if option.takesValue then
      match rest with
      | (.word, value) :: more => do
        take more { taken with arguments := ← takeValue option value taken.arguments }
      | _ => .error .usage
    else do take rest { taken with arguments := ← takeSwitch option taken.arguments }

/-- **What the arguments ask for.** -/
def read (args : List String) : Except EarlyExit Arguments := do
  let taken ← take (← ArgumentKind.classifyAll args) .start
  match taken.file with
  | some file => if taken.surplus then throw .usage else return { taken.arguments with file }
  | none => throw .usage

end Arguments
end GuideMarkup
