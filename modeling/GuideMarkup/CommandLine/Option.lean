import GuideMarkup.Numeral

/-!
# CommandLine/Option — the options of the command, and what an argument is by itself

    text  ↦  file · option with a value · switch · unknown

Options may be shortened, and may carry their value after an equals sign; a negative number is no
option, and everything after `--` is a file name.  A text that is the beginning of two options is
refused.
-/

namespace GuideMarkup

/-- How the command ends without rendering anything. -/
inductive EarlyExit where
  | help
  | version
  /-- The arguments make no sense. -/
  | usage
deriving DecidableEq, Repr

/-- The exit status of an early end. -/
def EarlyExit.status : EarlyExit → Nat
  | .help | .version => 0
  | .usage => 2

/-- The name of the command. -/
def commandName : String := "ganymede-render"

/-- The line that says how the command is used. -/
def usageLine : String :=
  "usage: " ++ commandName ++ " [-h] [--guide-id GUIDE_ID] [--step STEP] [--steps STEPS] " ++
    "[--lang LANG] [--mac] [--disabled] [--auto-travel] [--version] markup_file\n"

/-- What an early end prints. -/
def EarlyExit.text : EarlyExit → String
  | .help => usageLine ++
    "\nTransform guide step markup into an interactive document tree (JSON).\n"
  | .version => commandName ++ " vdev\n"
  | .usage => usageLine

/-- The options of the command. -/
inductive CommandOption where
  | shortHelp
  | help
  | guide
  | step
  | steps
  | lang
  | mac
  | disabled
  | autoTravel
  | version
deriving DecidableEq, Repr

namespace CommandOption

/-- All options, in order. -/
def all : List CommandOption :=
  [shortHelp, help, guide, step, steps, lang, mac, disabled, autoTravel, version]

/-- How an option is written. -/
def spelling : CommandOption → String
  | .shortHelp => "-h"
  | .help => "--help"
  | .guide => "--guide-id"
  | .step => "--step"
  | .steps => "--steps"
  | .lang => "--lang"
  | .mac => "--mac"
  | .disabled => "--disabled"
  | .autoTravel => "--auto-travel"
  | .version => "--version"

/-- The option is followed by a value. -/
def takesValue : CommandOption → Bool
  | .guide | .step | .steps | .lang => true
  | _ => false

/-- The option of the given spelling. -/
def ofSpelling? (s : List Char) : Option CommandOption :=
  all.find? (·.spelling.toList == s)

/-- The options that a spelling is the beginning of. -/
def startingWith (s : List Char) : List CommandOption :=
  all.filter (s.isPrefixOf ·.spelling.toList)

end CommandOption

/-! ## Classifying -/

/-- What an argument is, taken by itself. -/
inductive ArgumentKind where
  /-- A file name, or the value of an option. -/
  | word
  | option (option : CommandOption) (value : Option (List Char))
  | unknown
  /-- The mark after which all arguments are words. -/
  | separator
deriving DecidableEq, Repr

namespace ArgumentKind

/-- The text is written like a negative number. -/
def isNegativeNumber : List Char → Bool
  | '-' :: rest =>
    let whole := rest.takeWhile isDecimal
    match rest.dropWhile isDecimal with
    | [] => !whole.isEmpty
    | '.' :: fraction => !fraction.isEmpty && fraction.all isDecimal
    | _ => false
  | _ => false

/-- What an argument is that begins with a hyphen and spells no option in full, given the text up to
an equals sign and the value after it. -/
def classifyShortened (s name : List Char) (value : Option (List Char)) :
    Except EarlyExit ArgumentKind :=
  let readings : List ArgumentKind :=
    if "--".toList.isPrefixOf s then
      (CommandOption.startingWith name).map fun known => .option known value
    else if "-h".toList.isPrefixOf s then [.option .shortHelp (some (s.drop 2))]
    else []
  match readings with
  | [kind] => .ok kind
  | _ :: _ :: _ => .error .usage
  | [] => if isNegativeNumber s || s.contains ' ' then .ok .word else .ok .unknown

/-- What an argument that begins with a hyphen is. -/
def classifyHyphened (s : List Char) : Except EarlyExit ArgumentKind :=
  let name := s.takeWhile (· != '=')
  let value := if s.contains '=' then some ((s.dropWhile (· != '=')).drop 1) else none
  match CommandOption.ofSpelling? s, CommandOption.ofSpelling? name, value with
  | some known, _, _ => .ok (.option known none)
  | none, some known, some value => .ok (.option known (some value))
  | none, _, value => if s == ['-'] then .ok .word else classifyShortened s name value

/-- What an argument is. -/
def classify (s : List Char) : Except EarlyExit ArgumentKind :=
  if s == ['-', '-'] then .ok .separator
  else if s.head? == some '-' then classifyHyphened s
  else .ok .word

/-- What all arguments are; after the separator they are words. -/
def classifyAll : List String → Except EarlyExit (List (ArgumentKind × String))
  | [] => .ok []
  | s :: rest => do
    let kind ← classify s.toList
    match kind with
    | .separator => return (kind, s) :: rest.map (.word, ·)
    | _ => return (kind, s) :: (← classifyAll rest)

end ArgumentKind
end GuideMarkup
