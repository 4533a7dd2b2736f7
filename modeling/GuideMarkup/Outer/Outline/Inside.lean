import GuideMarkup.Outer.Outline.Tree

/-!
# Outer/Outline/Inside — lists and maps that stand inside themselves

    &x {a: *x}   &x {a: [*x]}   &x {a: {<<: *x}}

Seen from some place on, a list or a map stands in full where it is met first, and inside itself it
is only pointed at.  What is met first depends on the place: in the second line, the list under `a`
holds the map in full, and that map only points at the list.
-/

namespace GuideMarkup
namespace Outline
namespace Tree

/-- The list or the map with the given number stands here. -/
def hasNumber (number : Nat) : Tree → Bool
  | .list n .. | .map n .. => n == number
  | _ => false

/-- A map stands here, or a map around it. -/
def isMap : Tree → Bool
  | .map .. => true
  | .inner _ ofList => !ofList
  | _ => false

/-- From where a value is seen. -/
structure View where
  /-- The values with names. -/
  named : List Tree
  /-- How many steps inwards every value is still seen from its own place. -/
  reach : Nat
  /-- The numbers of the lists and maps around, which are only pointed at. -/
  around : List Nat

namespace View

/-- The list or the map with the given number. -/
def whole? (view : View) (number : Nat) : Option Tree :=
  view.named.find? (hasNumber number)

/-- The view of what a list or a map holds, so many steps further in. -/
def inside (view : View) (number steps : Nat) : View :=
  if view.reach = 0 then { view with around := number :: view.around }
  else { view with reach := view.reach - steps }

end View

/-- Entries without the one at the given place, and without those before it that take over from
other maps. -/
def entriesLeft (entries : List (Tree × Tree)) (place : Nat) : List (Tree × Tree) :=
  (entries.take place).filter (fun (key, _) => key.kind != .merge) ++ entries.drop (place + 1)

mutual

/-- **A value as it is seen.**  An item lies one step inside a list and an entry two steps inside a
map, so that an entry lies as deep as the parts of a pair in a list. -/
def seen : Nat → View → Tree → Tree
  | 0, _, tree => tree
  | fuel + 1, view, tree =>
    match tree with
    | .scalar kind text => .scalar kind text
    | .list number kind items =>
      if view.around.contains number then .inner number true
      else if kind = .pairs then
        .list number kind (items.map (seenEntries fuel (view.inside number 2) []))
      else .list number kind (items.map (seen fuel (view.inside number 1)))
    | .map number _ _ =>
      if view.around.contains number then .inner number false
      else seenEntries fuel (view.inside number 2) [] tree
    | .inner number ofList =>
      if view.around.contains number then .inner number ofList
      else ((view.whole? number).map (seen fuel view)).getD (.inner number ofList)

/-- The entries of a map, or of the maps in a list, as they are seen from the map that they belong
to.  Of the maps that are about to take them over, which may be among them, there are the entries
that are left. -/
def seenEntries : Nat → View → List (Nat × List (Tree × Tree)) → Tree → Tree
  | 0, _, _, tree => tree
  | fuel + 1, view, left, tree =>
    match tree with
    | .scalar kind text => .scalar kind text
    | .list number kind items =>
      .list number kind (items.map fun item =>
        if item.isMap then seenEntries fuel view left item else item)
    | .map number kind entries =>
      let entries := (left.lookup number).getD entries
      .map number kind (entries.zipIdx.map fun ((key, value), place) =>
        (key, if key.kind = .merge then
            seenEntries fuel view ((number, entriesLeft entries place) :: left) value
          else seen fuel view value))
    | .inner number ofList =>
      ((view.whole? number).map (seenEntries fuel view left)).getD (.inner number ofList)

end

/-- **The root of a document as it is seen from outside.**  Past the reach no number comes twice,
and each of them leads through every entry at most once, which bounds the depth. -/
def Document.seen (document : Document) (reach : Nat) : Tree :=
  let depth := (reach + document.bound + 1) * (4 * document.bound + 4)
  Tree.seen depth ⟨document.named, reach, []⟩ document.root

end Tree
end Outline
end GuideMarkup
