import GuideMarkup.CommandLine.Run
import GuideMarkup.Outer.File
import GuideMarkup.Outer.Markup.Reader

/-!
# Main — the command

The outermost layer: it reads the user's files and the markup, comes with a parser, prints what the
library answers, and decides nothing.  It keeps no log, so there is none to be set up.
-/

namespace GuideMarkup

/-- The fault that an error of the system means.  The system gives its numbers with either sign. -/
def FileFault.ofError : IO.Error → FileFault
  | .noFileOrDirectory .. => .notFound
  | .permissionDenied .. => .denied
  | .inappropriateType _ code _ =>
    if code = 21 ∨ code = 0 - 21 then .isDirectory else .notDirectory
  | .invalidArgument _ code _ =>
    if code = 36 ∨ code = 0 - 36 then .tooLong else ⟨22, "Invalid argument"⟩
  | error => ⟨5, toString error⟩

/-- What became of reading a file. -/
def readContent (path : String) : IO (Except FileFault String) := do
  try return .ok (← IO.FS.readFile path)
  catch error => return .error (.ofError error)

/-- The directory of the user's files. -/
def configDirectory : IO String := do
  match ← IO.getEnv "GANYMEDE_CONFIG_DIR" with
  | some directory => return directory
  | none => return Path.inside ((← IO.getEnv "HOME").getD "") ".ganymede_toolkit"

/-- The user's file for a part, if there is one. -/
def readUserFile (directory : String) (part : Section) : IO (Option UserFile) := do
  match ← readContent (Path.inside directory (part.name ++ ".yml")) with
  | .ok text => return some (.ofText part text)
  | .error fault => return if fault = .notFound then none else some .unreadable

/-- The user's files. -/
def readUserFiles : IO (Section → Option UserFile) := do
  let directory ← configDirectory
  let whitelist ← readUserFile directory .whitelist
  let resourceLinks ← readUserFile directory .resourceLinks
  let resourceMapping ← readUserFile directory .resourceMapping
  let messages ← readUserFile directory .messages
  let logging ← readUserFile directory .logging
  return fun
    | .whitelist => whitelist
    | .resourceLinks => resourceLinks
    | .resourceMapping => resourceMapping
    | .messages => messages
    | .logging => logging

/-- Prints what a command leaves behind, and gives its status. -/
def Output.emit (output : Output) : IO UInt32 := do
  IO.print output.out
  IO.eprint output.err
  return output.status.toUInt32

end GuideMarkup

/-- The command: renders the file that the arguments name. -/
def main (args : List String) : IO UInt32 := do
  match GuideMarkup.Arguments.read args with
  | .error exit =>
    let text := exit.text
    (if exit.status = 0 then ⟨0, text, ""⟩ else ⟨exit.status, "", text⟩ : GuideMarkup.Output).emit
  | .ok arguments =>
    let files ← GuideMarkup.readUserFiles
    let content ← GuideMarkup.readContent (GuideMarkup.Path.plain arguments.file)
    let found : GuideMarkup.Surroundings :=
      ⟨GuideMarkup.Markup.readFragments, GuideMarkup.Template.plainProperties, .ok "", files,
        content⟩
    match arguments.run found with
    | .ok output => output.emit
    | .error escape => (⟨1, "", reprStr escape ++ "\n"⟩ : GuideMarkup.Output).emit
