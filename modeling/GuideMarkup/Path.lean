import GuideMarkup.Text.Blank

/-!
# Path — paths of files and directories

Paths are texts with slashes between their parts.  Nothing here looks at a disk.
-/

namespace GuideMarkup
namespace Path

/-- The parts between the slashes of a path, empty ones included. -/
def parts (path : String) : List (List Char) :=
  pieces (· == '/') path.toList

/-- A part that leads nowhere: nothing, or a single dot. -/
def isIdle (part : List Char) : Bool :=
  part.isEmpty || part == ['.']

/-- The parts with a slash between them. -/
def join : List (List Char) → List Char
  | [] => []
  | [part] => part
  | part :: rest => part ++ '/' :: join rest

/-! ## Plain form -/

/-- The mark at the front of an absolute path.  Exactly two slashes are kept. -/
def root (path : String) : List Char :=
  match (path.toList.takeWhile (· == '/')).length with
  | 0 => []
  | 2 => ['/', '/']
  | _ => ['/']

/-- **A path in its plain form**: without needless slashes and dots; the empty path is a dot. -/
def plain (path : String) : String :=
  let written := root path ++ join ((parts path).filter (!isIdle ·))
  if written.isEmpty then "." else String.ofList written

/-! ## Files and directories -/

/-- The path of a file in a directory. -/
def inside (directory file : String) : String :=
  if directory.isEmpty || directory.toList.getLast? == some '/' then directory ++ file
  else directory ++ "/" ++ file

/-- The places passed on the way along a path, where `here` is the place reached so far.  A place
above the start is not one of them, nor is what lies beyond it. -/
def passed : Option (List (List Char)) → List (List Char) → List (List (List Char))
  | _, [] => []
  | none, _ => []
  | some here, part :: rest =>
    if isIdle part then passed (some here) rest
    else if part == ['.', '.'] then passed (if here.isEmpty then none else some here.dropLast) rest
    else (here ++ [part]) :: passed (some (here ++ [part])) rest

/-- **The directories below the start** that must exist for a relative path to exist. -/
def directories (path : String) : List String :=
  if path.toList.head? == some '/' then []
  else ((passed (some []) (parts path)).map fun place => String.ofList (join place)).eraseDups

end Path
end GuideMarkup
