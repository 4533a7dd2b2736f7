import GuideMarkup.Outer.Outline.Kind
import GuideMarkup.Outer.Outline.Token

/-!
# Outer/Outline/Tree — the structure of an outline

The tokens of an outline are grouped: into lists and maps, written in blocks or between brackets.
Where a value is missing, it is the empty text without quotes.  A value may be given a name, and
stands again wherever its name does, even inside itself.  Every list and map has a number, which
tells it from others with the same content.
-/

namespace GuideMarkup
namespace Outline

/-- The structure of an outline. -/
inductive Tree where
  | scalar (kind : Kind) (text : List Char)
  | list (number : Nat) (kind : Kind) (items : List Tree)
  | map (number : Nat) (kind : Kind) (entries : List (Tree × Tree))
  /-- The list or the map of the given number, which is around this place. -/
  | inner (number : Nat) (ofList : Bool)
deriving Inhabited

namespace Tree

/-- A value that is missing. -/
def missing : Tree := .scalar .null []

/-- The kind of a value. -/
def kind : Tree → Kind
  | .scalar kind _ | .list _ kind _ | .map _ kind _ => kind
  | .inner _ ofList => if ofList then .list else .map

/-- The tokens that are left, the values with names, what handles stand for, and the next number. -/
structure State where
  tokens : List Token
  /-- What ends the tokens. -/
  fault : Option Fault
  names : List (List Char × Tree)
  handles : List (List Char × List Char)
  number : Nat

/-- A reader of a part of the structure. -/
abbrev Reader := StateT State (Except Fault)

/-- The token that comes next. -/
def peek : Reader (Option Token) := do
  let state ← get
  match state.tokens, state.fault with
  | token :: _, _ => return some token
  | [], some fault => throw fault
  | [], none => return none

/-- The next token is taken. -/
def drop : Reader Unit :=
  modify fun state => { state with tokens := state.tokens.tail }

/-- The given token comes next, and is taken. -/
def took (token : Token) : Reader Bool := do
  if (← peek) == some token then drop; return true else return false

/-- One of the given tokens comes next. -/
def comes (tokens : List Token) : Reader Bool := do
  return (← peek).any tokens.contains

/-- A number that nothing has. -/
def newNumber : Reader Nat :=
  modifyGet fun state => (state.number, { state with number := state.number + 1 })

/-! ## Names and tags -/

/-- The value of the given name. -/
def valueNamed (name : List Char) : Reader Tree := do
  match (← get).names.lookup name with
  | some tree => return tree
  | none => throw .malformed

/-- A value gets a name. -/
def giveName (name : Option (List Char)) (tree : Tree) : Reader Unit :=
  match name with
  | none => pure ()
  | some name => modify fun state => { state with names := (name, tree) :: state.names }

/-- A name is given to the value that follows: nothing else may have it, and inside the value it
stands for the list or the map around, which has the given number. -/
def openName (name : Option (List Char)) (number : Nat) : Reader Unit :=
  match name with
  | none => pure ()
  | some id => do
    if ((← get).names.lookup id).isSome then throw .malformed
    giveName name (.inner number (← comes [.listStart, .openList, .entry]))

/-- The name that comes next, if one does. -/
def takeAnchor : Reader (Option (List Char)) := do
  match ← peek with
  | some (.anchor name) => drop; return some name
  | _ => return none

/-- The tag that is written. -/
def spellOut (tag : WrittenTag) : Reader (List Char) := do
  match tag.handle with
  | none => return tag.text
  | some handle =>
    match (← get).handles.lookup handle with
    | some beginning => return beginning ++ tag.text
    | none => throw .malformed

/-- The tag that comes next, if one does. -/
def takeTag : Reader (Option WrittenTag) := do
  match ← peek with
  | some (.tag tag) => drop; return some tag
  | _ => return none

/-- The name and the tag that come next, in any order. -/
def takeProperties : Reader (Option (List Char) × Option (List Char)) := do
  let first ← takeAnchor
  let tag ← takeTag
  let name ← if first.isSome then pure first else takeAnchor
  match tag with
  | none => return (name, none)
  | some tag => return (name, some (← spellOut tag))

/-! ## Structure -/

/-- Where a value stands, which says what it may be. -/
inductive Position where
  /-- Between brackets: no blocks. -/
  | bracketed
  /-- In a block. -/
  | block
  /-- The value of a key in a block: also a list that is not deeper than the key. -/
  | field
deriving DecidableEq

mutual

/-- A value. -/
def readNode : Nat → Position → Reader Tree
  | 0, _ => throw .malformed
  | fuel + 1, position => do
    match ← peek with
    | some (.named id) => drop; valueNamed id
    | _ =>
      let (name, tag) ← takeProperties
      let number ← newNumber
      openName name number
      let tree ← readContent fuel position tag (name.isSome || tag.isSome) number
      giveName name tree
      return tree

/-- A value after its name and its tag; one that has any of them may be missing. -/
def readContent : Nat → Position → Option (List Char) → Bool → Nat → Reader Tree
  | 0, _, _, _, _ => throw .malformed
  | fuel + 1, position, tag, optional, number => do
    let absent : Reader Tree :=
      if optional then return .scalar (.ofScalar tag [] true) [] else throw .malformed
    match ← peek with
    | some (.scalar text plain) => drop; return .scalar (.ofScalar tag text plain) text
    | some .openList => drop; return .list number (.ofGroup tag .list) (← readBracketList fuel true)
    | some .openMap => drop; return .map number (.ofGroup tag .map) (← readBracketMap fuel true)
    | some .listStart =>
      if position = .bracketed then throw .malformed
      drop
      return .list number (.ofGroup tag .list) (← readBlockList fuel)
    | some .mapStart =>
      if position = .bracketed then throw .malformed
      drop
      return .map number (.ofGroup tag .map) (← readBlockMap fuel)
    | some .entry =>
      if position = .field then return .list number (.ofGroup tag .list) (← readFlatList fuel)
      else absent
    | _ => absent

/-- A value, or a missing one where one of the given tokens comes next. -/
def readUnless : Nat → Position → List Token → Reader Tree
  | 0, _, _ => throw .malformed
  | fuel + 1, position, ends => do
    if ← comes ends then return missing else readNode fuel position

/-- The items of a list in a block of its own. -/
def readBlockList : Nat → Reader (List Tree)
  | 0 => throw .malformed
  | fuel + 1 => do
    if ← took .entry then
      let item ← readUnless fuel .block [.entry, .blockEnd]
      return item :: (← readBlockList fuel)
    else if ← took .blockEnd then return []
    else throw .malformed

/-- The items of a list that is not deeper than its key. -/
def readFlatList : Nat → Reader (List Tree)
  | 0 => throw .malformed
  | fuel + 1 => do
    if ← took .entry then
      let item ← readUnless fuel .block [.entry, .key, .value, .blockEnd]
      return item :: (← readFlatList fuel)
    else return []

/-- The entries of a map in a block. -/
def readBlockMap : Nat → Reader (List (Tree × Tree))
  | 0 => throw .malformed
  | fuel + 1 => do
    if ← took .key then
      let key ← readUnless fuel .field [.key, .value, .blockEnd]
      let value ←
        if ← took .value then readUnless fuel .field [.key, .value, .blockEnd]
        else pure missing
      return (key, value) :: (← readBlockMap fuel)
    else if ← took .blockEnd then return []
    else throw .malformed

/-- The value after a key between brackets. -/
def readBracketValue : Nat → Token → Reader Tree
  | 0, _ => throw .malformed
  | fuel + 1, close => do
    if ← took .value then readUnless fuel .bracketed [.comma, close] else return missing

/-- The items of a list between brackets; an item with a key is a map of one entry. -/
def readBracketList : Nat → Bool → Reader (List Tree)
  | 0, _ => throw .malformed
  | fuel + 1, first => do
    if ← took .closeList then return []
    if !first then
      if !(← took .comma) then throw .malformed
    if ← took .key then
      let key ← readUnless fuel .bracketed [.value, .comma, .closeList]
      let value ← readBracketValue fuel .closeList
      return .map (← newNumber) .map [(key, value)] :: (← readBracketList fuel false)
    else if ← took .closeList then return []
    else
      let item ← readNode fuel .bracketed
      return item :: (← readBracketList fuel false)

/-- The entries of a map between brackets; an item without a key is a key without a value. -/
def readBracketMap : Nat → Bool → Reader (List (Tree × Tree))
  | 0, _ => throw .malformed
  | fuel + 1, first => do
    if ← took .closeMap then return []
    if !first then
      if !(← took .comma) then throw .malformed
    if ← took .key then
      let key ← readUnless fuel .bracketed [.value, .comma, .closeMap]
      let value ← readBracketValue fuel .closeMap
      return (key, value) :: (← readBracketMap fuel false)
    else if ← took .closeMap then return []
    else
      let key ← readNode fuel .bracketed
      return (key, missing) :: (← readBracketMap fuel false)

end

/-! ## Documents -/

/-- The directives in front of a document, of which `version` says whether one gave the version so
far: the version, which is one point something, and every handle are given once. -/
def readDirectives : Nat → Bool → Reader Unit
  | 0, _ => throw .malformed
  | fuel + 1, version => do
    match ← peek with
    | some (.directive directive) =>
      drop
      match directive with
      | .version major _ =>
        if version || major != 1 then throw .malformed
        readDirectives fuel true
      | .handle name text =>
        if ((← get).handles.lookup name).isSome then throw .malformed
        modify fun state => { state with handles := (name, text) :: state.handles }
        readDirectives fuel version
      | .other => readDirectives fuel version
    | _ => pure ()

/-- The handles that need no directive. -/
def standardHandles : List (List Char × List Char) :=
  [(['!'], ['!']), (['!', '!'], Kind.standardBeginning)]

/-- The standard handles are known, unless they stand for something else. -/
def addStandardHandles : Reader Unit :=
  modify fun state => { state with handles := state.handles ++ standardHandles }

/-- The start of a document, which must be marked after directives, and whether it is. -/
def readStart (fuel : Nat) : Reader Bool := do
  let directed ← match ← peek with
    | some (.directive _) => readDirectives fuel false; pure true
    | _ => pure false
  let marked ← took .documentStart
  if directed && !marked then throw .malformed
  addStandardHandles
  return marked

/-- Nothing comes next but marks that end a document. -/
def readEnd : Nat → Reader Unit
  | 0 => throw .malformed
  | fuel + 1 => do
    if ← took .documentEnd then readEnd fuel
    else if (← peek).isSome then throw .malformed

/-- A marked document has no content. -/
def endsHere : Option Token → Bool
  | none | some .documentStart | some .documentEnd | some (.directive _) => true
  | _ => false

/-- The structure of a document. -/
structure Document where
  root : Tree
  /-- The values in it that have names. -/
  named : List Tree
  /-- All numbers in it are less. -/
  bound : Nat

/-- The one document of an outline, if it has any. -/
def readDocument (fuel : Nat) : Reader (Option Document) := do
  if (← peek).isNone then return none
  let marked ← readStart fuel
  let root ← if marked && endsHere (← peek) then pure missing else readNode fuel .block
  readEnd fuel
  let state ← get
  return some ⟨root, state.names.map (·.2), state.number⟩

/-- **The structure of an outline**, if it holds a document; there may be only one.  A token opens
at most four readers, which bounds their depth. -/
def ofTokens (found : Tokens) : Except Fault (Option Document) := do
  let start : State := ⟨found.tokens, found.fault, [], [], 0⟩
  return (← (readDocument (4 * found.tokens.length + 4)).run start).1

end Tree
end Outline
end GuideMarkup
