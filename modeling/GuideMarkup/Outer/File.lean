import GuideMarkup.Data.Way
import GuideMarkup.Logging
import GuideMarkup.Outer.Outline.Value

/-!
# Outer/File — reading the user's files

A user's file is an outline.  One that is not well-formed is unreadable, and one with a text that
stands for no value of its kind fails.
-/

namespace GuideMarkup

/-! ## Where a map stands again

    {file: &f {level: INFO}, audit: *f, more: {<<: *f}}

A map that has a name is one and the same map wherever its name stands: what is added to it under
`file` shows under `audit`, too.  Taking over its entries makes another map, although the values of
these entries stay the same ones.  The numbers of an outline tell which maps are one. -/

namespace Outline

open Data (Step Way)

/-- The numbers of the maps inside a value, with the ways to them. -/
abbrev Standing := List (Way × Nat)

/-- What stands inside a part, seen from the value around it. -/
def Standing.behind (step : Step) (standing : Standing) : Standing :=
  standing.map fun (way, number) => (step :: way, number)

/-- What stands inside the fields of a map: those that it takes over from others, and its own. -/
structure Standings where
  taken : List (Key × Standing)
  own : List (Key × Standing)

/-- What stands inside all fields; of two fields with one key the later value stands. -/
def Standings.table (standings : Standings) : Table Key Standing :=
  Table.ofEntries (standings.taken ++ standings.own)

/-- What stands inside the fields of a table, seen from the map around it. -/
def behindFields (table : Table Key Standing) : Standing :=
  table.flatMap fun (key, standing) => standing.behind (.field key)

namespace Tree

/-- The key that a tree makes. -/
def keyOf (key : Tree) : Key :=
  (asKey (if key.kind = .equal then equalKey key else build key)).value

mutual

/-- **The maps inside the value of a tree.** -/
def standing : Tree → Standing
  | .map number kind entries =>
    if kind = .map then ([], number) :: behindFields (standings entries).table else []
  | .list _ kind items =>
    match kind with
    | .list => standingItems 0 items
    | .pairs => standingPairs 0 items
    | _ => []
  | _ => []

/-- The maps inside the items of a list, of which the first has the given index. -/
def standingItems (index : Nat) : List Tree → Standing
  | [] => []
  | item :: rest => (standing item).behind (.item index) ++ standingItems (index + 1) rest

/-- The maps inside the pairs that the items of a list are. -/
def standingPairs (index : Nat) : List Tree → Standing
  | .map _ _ [(key, value)] :: rest =>
    ((standing key).behind .first ++ (standing value).behind .second).behind (.item index) ++
      standingPairs (index + 1) rest
  | _ => []

/-- The maps inside the fields of a map. -/
def standings : List (Tree × Tree) → Standings
  | [] => ⟨[], []⟩
  | (key, value) :: rest =>
    let more := standings rest
    if key.kind = .merge then ⟨standingTaken value ++ more.taken, more.own⟩
    else ⟨more.taken, (keyOf key, standing value) :: more.own⟩

/-- The maps inside the fields that a map takes over from a value. -/
def standingTaken : Tree → List (Key × Standing)
  | .map _ _ entries =>
    let fields := standings entries
    fields.taken ++ fields.own
  | .list _ _ items => standingTakenAll items
  | _ => []

/-- The maps inside the fields that a map takes over from several ones, the last one first. -/
def standingTakenAll : List Tree → List (Key × Standing)
  | [] => []
  | item :: rest =>
    let first := match item with
      | .map .. => standingTaken item
      | _ => []
    standingTakenAll rest ++ first

end

/-! ### Overriding -/

/-- The maps inside the second of the two parts that a value has as an item of a list. -/
def standingSecond : Tree → Standing
  | .list _ .list [_, content] => standing content
  | .list _ .pairs [_, .map _ _ [(key, value)]] =>
    (standing key).behind .first ++ (standing value).behind .second
  | _ => []

/-- The maps inside the fields that the pairs of a list contribute. -/
def standingPairFields : List Tree → List (Key × Standing)
  | .map _ _ [(key, value)] :: rest =>
    ((asKey (build key)).value, standing value) :: standingPairFields rest
  | _ => []

/-- The maps inside the fields that a value contributes when it overrides an object. -/
def standingFields : Tree → Table Key Standing
  | .map _ .map entries => (standings entries).table
  | .list _ .list items => Table.ofEntries (items.filterMap fun item =>
      match item.build.value.asField with
      | .ok (key, _) => some (key, standingSecond item)
      | .error _ => none)
  | .list _ .pairs items => Table.ofEntries (standingPairFields items)
  | _ => []

/-- **The ways to the places where a map stands again**, given one way to it; a tree without a value
has none. -/
def twins (tree : Tree) (way : Way) : List Way :=
  let standing := behindFields tree.standingFields
  match tree.value, standing.find? (·.1 == way) with
  | .ok _, some (_, number) =>
    (standing.filter fun (other, n) => n == number && other != way).map (·.1)
  | _, _ => []

end Tree

/-- Where else, in an overriding text, the map stands to which a way leads. -/
def twins (reach : Nat) (text : String) (way : Way) : List Way :=
  match readTree reach text with
  | .ok (some tree) => tree.twins way
  | _ => []

end Outline

/-! ## The user's files -/

/-- What a file is that cannot be read as an outline. -/
def UserFile.ofFault : Outline.Fault → UserFile
  | .malformed => .unreadable
  | .missing why => .failing (.missing why)

/-- How far inside a part the values stand that are shown: the messages are its own fields, and
everything else that is shown belongs to a field of a field. -/
def Section.reach : Section → Nat
  | .messages => 2
  | _ => 4

/-- **What a user's file for a part holds.**  A file without content holds null. -/
def UserFile.ofText (part : Section) (text : String) : UserFile :=
  match Outline.read part.reach text with
  | .ok value => .holds value
  | .error fault => ofFault fault

/-- **The user's file for the logging**, unless its file handler is the object around it, and so is
not written out. -/
def Logging.Override.ofText? (text : String) : Option Override :=
  Override.of? (.ofText .logging text) (Outline.twins Section.logging.reach text fileHandler)

end GuideMarkup
