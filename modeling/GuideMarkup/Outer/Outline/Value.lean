import GuideMarkup.Outer.Outline.Inside
import GuideMarkup.Outer.Outline.Line

/-!
# Outer/Outline/Value — the plain value that an outline stands for

    word   12   !!str 12   {<<: *base, name: value}   !!set {a, b}

A text is read as its kind says.  A map gives its fields, after those that it takes over from other
maps; a set gives its keys, and a list of pairs the entries of its maps.
-/

namespace GuideMarkup

/-! ## Bytes written with sixty-four characters

Four characters stand for three bytes; padding fills up the last four.  Whatever is neither such a
character nor padding counts for nothing. -/

namespace Base64

/-- The value of a character. -/
def value? (c : Char) : Option Nat :=
  if 'A' ≤ c && c ≤ 'Z' then some (c.toNat - 65)
  else if 'a' ≤ c && c ≤ 'z' then some (c.toNat - 71)
  else if c.isDigit then some (c.toNat + 4)
  else if c = '+' then some 62
  else if c = '/' then some 63
  else none

/-- The bytes that a text stands for, where `count` characters of the four at hand have been read,
`bits` is what they leave over, and `pads` counts the padding since the last of them.  Enough
padding ends the text; without it, four characters must be complete. -/
def decodeFrom (count bits pads : Nat) : List Char → Option (List UInt8)
  | [] => if count = 0 then some [] else none
  | c :: rest =>
    if c = '=' then
      if 2 ≤ count && 4 ≤ count + pads + 1 then some []
      else decodeFrom count bits (if 2 ≤ count then pads + 1 else pads) rest
    else match value? c with
      | none => decodeFrom count bits pads rest
      | some value =>
        match count with
        | 0 => decodeFrom 1 value 0 rest
        | 1 => (decodeFrom 2 (value % 16) 0 rest).map (UInt8.ofNat (4 * bits + value / 16) :: ·)
        | 2 => (decodeFrom 3 (value % 4) 0 rest).map (UInt8.ofNat (16 * bits + value / 4) :: ·)
        | _ => (decodeFrom 0 0 0 rest).map (UInt8.ofNat (64 * bits + value) :: ·)

/-- **The bytes that a text stands for**, if it is complete. -/
def decode? (s : List Char) : Option (List UInt8) :=
  decodeFrom 0 0 0 s

end Base64

/-! ## Values with the faults of their parts

A value is built from its parts even if some of them are at fault, and every fault is kept with its
depth.  Of several faults the outermost one wins, and of those at one depth the first. -/

namespace Outline

/-- A value, and the first fault at each depth. -/
structure Leveled (α : Type) where
  faults : List (Option Fault)
  value : α

namespace Leveled

variable {α β γ : Type}

/-- A value without faults. -/
def ok (value : α) : Leveled α := ⟨[], value⟩

/-- A fault, with a value in its place. -/
def fail (fault : Fault) (value : α) : Leveled α := ⟨[some fault], value⟩

/-- A value or a fault, which has another value in its place. -/
def ofExcept (standIn : α) : Except Fault α → Leveled α
  | .ok value => .ok value
  | .error fault => .fail fault standIn

/-- The first faults at each depth of two values, one after the other. -/
def firstFaults : List (Option Fault) → List (Option Fault) → List (Option Fault)
  | [], faults => faults
  | faults, [] => faults
  | a :: first, b :: second => a.or b :: firstFaults first second

/-- A function of a value. -/
def map (f : α → β) (a : Leveled α) : Leveled β :=
  ⟨a.faults, f a.value⟩

/-- A function of two values, one after the other. -/
def both (f : α → β → γ) (a : Leveled α) (b : Leveled β) : Leveled γ :=
  ⟨firstFaults a.faults b.faults, f a.value b.value⟩

/-- A value that stands deeper. -/
def deeper (a : Leveled α) : Leveled α :=
  ⟨none :: a.faults, a.value⟩

/-- **The value, or the fault that wins.** -/
def toExcept (a : Leveled α) : Except Fault α :=
  match a.faults.findSome? id with
  | some fault => .error fault
  | none => .ok a.value

end Leveled
end Outline

/-! ## Values -/

namespace Outline

/-! ### Texts -/

/-- The truth value that a text is said to be. -/
def readTruth (text : List Char) : Except NoValue Bool :=
  match Kind.truths.lookup (String.ofList (lower text)) with
  | some b => .ok b
  | none => .error .noTruth

/-- The bytes that a text is said to be. -/
def readBytes (text : List Char) : Except Fault (List UInt8) :=
  if text.any fun c => 0x80 ≤ c.toNat then .error .malformed
  else match Base64.decode? text with
    | some bytes => .ok bytes
    | none => .error .malformed

/-- **The value that a text of a kind stands for.** -/
def scalarValue (kind : Kind) (text : List Char) : Except Fault Data :=
  let orMissing {α : Type} (result : Except NoValue α) : Except Fault α :=
    result.mapError .missing
  match kind with
  | .null => .ok .null
  | .bool => do return .bool (← orMissing (readTruth text))
  | .int => do return .int (← orMissing (readInteger text))
  | .real => do return .real (← orMissing (readReal text))
  | .text => .ok (.text (String.ofList text))
  | .bytes => do return .bytes (← readBytes text)
  | .moment => do return .moment (← orMissing (readMoment (Kind.withoutLastBreak text)))
  | _ => .error .malformed

/-- A value of a kind that it cannot be; if it should have parts, that shows when they are read. -/
def misplaced (kind : Kind) : Leveled Data :=
  if kind.isGroup then (Leveled.fail .malformed (.list [])).deeper else .fail .malformed .null

namespace Tree

/-! ### Keys -/

mutual

/-- The text that a value is or, as a map, has under the sign of equality. -/
def text? : Tree → Option (List Char)
  | .scalar _ text => some text
  | .map _ _ entries => equalText? entries
  | _ => none

/-- The text under the first sign of equality. -/
def equalText? : List (Tree × Tree) → Option (List Char)
  | [] => none
  | (key, value) :: rest => if key.kind = .equal then text? value else equalText? rest

end

/-- The value of a map that is said to be a text of a kind. -/
def textInMap (kind : Kind) (entries : List (Tree × Tree)) : Leveled Data :=
  match equalText? entries with
  | none => misplaced kind
  | some text =>
    if kind.isGroup then misplaced kind
    else if kind = .moment then .fail (.missing .momentInside) .null
    else .ofExcept .null (scalarValue kind text)

/-- The sign of equality as a key is a text. -/
def equalKey (key : Tree) : Leveled Data :=
  match text? key with
  | some text => .ok (.text (String.ofList text))
  | none => .fail .malformed .null

/-- A value as a key, which must be a single value. -/
def asKey (value : Leveled Data) : Leveled Key :=
  match value.value.key? with
  | some key => value.map fun _ => key
  | none => value.both (fun _ key => key) (.fail .malformed .null)

/-! ### Values -/

/-- The fields of a map: those that it takes over from other maps, and its own. -/
structure Parts where
  /-- Something else than maps should be taken over. -/
  unshapely : Bool
  taken : Leveled (List (Key × Data))
  own : Leveled (List (Key × Data))

/-- All fields, where those that are taken over come first. -/
def Parts.all (parts : Parts) : Leveled (List (Key × Data)) :=
  parts.taken.both (· ++ ·) parts.own

/-- The table of all fields; of two fields with one key the later value wins. -/
def Parts.table (parts : Parts) : Leveled Fields :=
  let table := parts.all.map Table.ofEntries
  if parts.unshapely then (Leveled.fail .malformed ()).both (fun _ fields => fields) table
  else table

/-- What a map takes over, with what it takes over elsewhere; `before` comes first. -/
def Parts.takeOver (before : Parts) (parts : Parts) : Parts :=
  ⟨before.unshapely || parts.unshapely, before.all.both (· ++ ·) parts.taken, parts.own⟩

/-- Nothing. -/
def Parts.none : Parts := ⟨false, .ok [], .ok []⟩

/-- Something that is no map. -/
def Parts.noMap : Parts := ⟨true, .ok [], .ok []⟩

mutual

/-- **The value of a tree.** -/
def build : Tree → Leveled Data
  | .inner _ ofList => .ok (.inner ofList)
  | .scalar kind text =>
    if kind.isGroup then misplaced kind else .ofExcept .null (scalarValue kind text)
  | .list _ kind items =>
    match kind with
    | .list => (buildItems items).map Data.list |>.deeper
    | .pairs => (buildPairs items).map Data.list |>.deeper
    | kind => misplaced kind
  | .map _ kind entries =>
    match kind with
    | .map => (buildParts entries).table.map Data.object |>.deeper
    | .set => (buildParts entries).table.map (fun fields => .set (fields.map (·.1))) |>.deeper
    | kind => textInMap kind entries

/-- The values of the items of a list. -/
def buildItems : List Tree → Leveled (List Data)
  | [] => .ok []
  | item :: rest => (build item).both (· :: ·) (buildItems rest)

/-- The pairs that the items of a list are, each of them a map of one entry. -/
def buildPairs : List Tree → Leveled (List Data)
  | [] => .ok []
  | .map _ _ [(key, value)] :: rest =>
    ((build key).both .pair (build value)).both (· :: ·) (buildPairs rest)
  | _ :: _ => .fail .malformed []

/-- The fields of a map. -/
def buildParts : List (Tree × Tree) → Parts
  | [] => .none
  | (key, value) :: rest =>
    let more := buildParts rest
    if key.kind = .merge then (takenFrom value).takeOver more
    else
      let name := asKey (if key.kind = .equal then equalKey key else build key)
      let field := name.both Prod.mk (build value)
      { more with own := field.both (· :: ·) more.own }

/-- What a map takes over from a value: the fields of a map, or of several, where earlier ones win
over later ones. -/
def takenFrom : Tree → Parts
  | .map _ _ entries => buildParts entries
  | .list _ _ items => takenFromAll items
  | .inner _ ofList => if ofList then .noMap else .none
  | .scalar .. => .noMap

/-- What a map takes over from several ones, the last one first. -/
def takenFromAll : List Tree → Parts
  | [] => .none
  | item :: rest =>
    let more := takenFromAll rest
    let first := match item with
      | .map .. | .inner .. => takenFrom item
      | _ => .noMap
    ⟨more.unshapely || first.unshapely, more.taken.both (· ++ ·) first.all, .ok []⟩

end

/-- The value of a tree, or its fault. -/
def value (tree : Tree) : Except Fault Data :=
  tree.build.toExcept

end Tree

/-! ### Reading -/

/-- The first character of a text that may only mark the order of its bytes is left out. -/
def withoutOrderMark : List Char → List Char
  | '\uFEFF' :: rest => rest
  | s => s

/-- The tree of a text as an outline, with everything that lies within the given reach as it is seen
from its own place; a text without any content has none. -/
def readTree (reach : Nat) (text : String) : Except Fault (Option Tree) := do
  let s := withPlainBreaks text.toList
  if !s.all isPrintable then throw .malformed
  return (← Tree.ofTokens (tokens (withoutOrderMark s))).map (·.seen reach)

/-- **The value that a text stands for as an outline**; a text without any content stands for
null. -/
def read (reach : Nat) (text : String) : Except Fault Data := do
  match ← readTree reach text with
  | none => return .null
  | some tree => tree.value

end Outline

end GuideMarkup
