import GuideMarkup.CommandLine.Arguments
import GuideMarkup.Node.Data
import GuideMarkup.Path
import GuideMarkup.Render

/-!
# CommandLine/Run — what the command prints

    arguments  ↦  file  ↦  interactive tree  ↦  indented JSON

The command renders one file under the user's configuration and without any progress.  It ends with
status 0 and the tree, with 1 if the markup is rejected, and with 2 if the file cannot be read.  An
error escapes if setting up logging lets one escape, if the number of a guide is needed that was left
blank, if there is no configuration or none that can be used, or if the tree cannot be written.
-/

namespace GuideMarkup

/-- Why a file cannot be read: the number and the wording of the system. -/
structure FileFault where
  number : Nat
  wording : String
deriving DecidableEq, Repr

namespace FileFault

/-- There is nothing at the path. -/
def notFound : FileFault := ⟨2, "No such file or directory"⟩

/-- The file may not be read. -/
def denied : FileFault := ⟨13, "Permission denied"⟩

/-- A file stands where the path needs a directory. -/
def notDirectory : FileFault := ⟨20, "Not a directory"⟩

/-- The path, or a part of it, is longer than any name may be. -/
def tooLong : FileFault := ⟨36, "File name too long"⟩

/-- There is a directory at the path. -/
def isDirectory : FileFault := ⟨21, "Is a directory"⟩

/-- The fault as it is reported for a path. -/
def message (fault : FileFault) (path : String) : String :=
  "[Errno " ++ toString fault.number ++ "] " ++ fault.wording ++ ": " ++
    String.ofList (Quoted.encode path.toList)

end FileFault

/-- What a command leaves behind. -/
structure Output where
  status : Nat
  out : String
  err : String
deriving DecidableEq, Repr

/-- What the command finds when it starts. -/
structure Surroundings where
  parser : Markup.Parser
  /-- What the fields of an address may ask of a value. -/
  properties : Template.Properties
  /-- What logging prints in front of the tree, unless an error escapes from setting it up.  It is
  nothing as long as logging goes elsewhere and need not report its own configuration. -/
  logging : Except Escape String
  /-- The user's files. -/
  files : Section → Option UserFile
  /-- What became of reading the markup. -/
  content : Except FileFault String

namespace Arguments

/-- The guides that the arguments make available: the one being read, if its steps were entered. -/
def registry (arguments : Arguments) : Except Misfit Registry :=
  match arguments.guide, arguments.steps with
  | some guide, some steps => do return [(← guide.key, ⟨steps, arguments.lang⟩)]
  | _, _ => .ok []

/-- The renderer that the arguments describe, under a configuration. -/
def renderer (arguments : Arguments) (properties : Template.Properties) (config : Config)
    (registry : Registry) : Renderer where
  registry := registry
  platform := ⟨arguments.mac⟩
  config := config
  travelCopy := arguments.autoTravel
  properties := properties

/-- **What the command prints** about the content of its file. -/
def print (arguments : Arguments) (renderer : Renderer) (parser : Markup.Parser)
    (markup : String) : Except Escape Output := do
  match ← renderer.render parser .empty markup arguments.guide arguments.step
      arguments.disabled with
  | .tree node =>
    match node.toData.toJson? with
    | some json => return ⟨0, json ++ "\n", ""⟩
    | none => throw (.misfit .overlong)
  | .unreadable message _ => return ⟨1, "", message ++ "\n"⟩

/-- What the command prints about a file that cannot be read. -/
def report (fault : FileFault) (path : String) : Output :=
  ⟨2, "", "Cannot read " ++ path ++ ": " ++ fault.message path ++ "\n"⟩

/-- **The command**; what logging prints stands in front of everything else. -/
def run (arguments : Arguments) (found : Surroundings) : Except Escape Output := do
  let printed ← found.logging
  let registry ← arguments.registry.mapError .misfit
  let config ← (Config.load found.files).mapError .misfit
  let output ← match found.content with
    | .ok markup =>
      arguments.print (arguments.renderer found.properties config registry) found.parser markup
    | .error fault => .ok (report fault (Path.plain arguments.file))
  return { output with out := printed ++ output.out }

end Arguments
end GuideMarkup
