import GuideMarkup.Proofs.Occurrence
import Mathlib.Data.Int.Range

/-!
# Proofs/Numbering — the boxes of a tree are numbered without gaps

    boxes shown by a stretch of a walk  =  numbers from the count before it to the count after it

The invariant (`Numbered`) speaks of a stretch and not of a tree, so that stretches can be joined,
and it forgets what a failing rule had shown: the count goes back with it.
-/

namespace GuideMarkup

variable {rules : List Rule} {ctx : Context}

/-! ## Boxes -/

/-- The box that a content is. -/
def Content.box? : Content → Option Checkbox
  | .checkbox box => some box
  | _ => none

/-- Of all that rules show nothing is a box. -/
theorem box?_of_shows {site : Site} {scope : Scope} {content : Content}
    (shows : Shows ctx site scope content) : content.box? = none := by
  cases shows with
  | link role target leads marked icon =>
    rw [Context.linkContent]
    split <;> rfl
  | _ => rfl

/-- Texts show no boxes. -/
theorem box?_of_occursInText {content : Content} (inText : OccursInText ctx content) :
    content.box? = none := by
  cases inText <;> rfl

namespace Node

/-- The boxes of the trees of a list, in document order. -/
def boxesAll (trees : List Node) : List Checkbox :=
  (walkAll trees).filterMap (·.content.box?)

/-- **The boxes of a tree**, in document order. -/
def boxes (tree : Node) : List Checkbox :=
  tree.walk.filterMap (·.content.box?)

@[simp] theorem boxesAll_nil : boxesAll [] = [] := rfl

@[simp] theorem boxesAll_cons (tree : Node) (rest : List Node) :
    boxesAll (tree :: rest) = tree.boxes ++ boxesAll rest := by
  rw [boxesAll, walkAll, List.filterMap_append, boxes, boxesAll]

theorem boxes_mk (content : Content) (children : List Node) :
    (mk content children).boxes = content.box?.toList ++ boxesAll children := by
  rw [boxes, walk, List.filterMap_cons, Node.content, boxesAll]
  cases content.box? <;> rfl

theorem boxes_mk_of_box? {content : Content} (none : content.box? = none) (children : List Node) :
    (mk content children).boxes = boxesAll children := by
  rw [boxes_mk, none, Option.toList_none, List.nil_append]

theorem boxes_leaf_checkbox (box : Checkbox) : (leaf (.checkbox box)).boxes = [box] :=
  boxes_mk ..

theorem boxes_transformText (value : String) (pass : Pass) :
    (transformText ctx value pass).1.boxes = [] := by
  rw [boxes, List.filterMap_eq_nil_iff]
  intro node member
  exact box?_of_occursInText (everywhere_transformText value pass _ List.mem_cons_self node member)

end Node

/-! ## Numbers -/

theorem index_of_checkbox {index : Int} {box : Checkbox} (made : ctx.checkbox index = .ok box) :
    box.index = index := by
  rw [Context.checkbox] at made
  split at made
  · obtain ⟨checked, -, ⟨⟩⟩ := exists_ok_of_bind made
    rfl
  · obtain ⟨⟩ := made
    rfl

/-- Every box of a tree is the one that the context gives for its number. -/
theorem checkbox_of_mem_boxes {document : Markup} {start : Int} {box : Checkbox}
    (member : box ∈ (transform rules ctx document start).1.boxes) :
    ctx.checkbox box.index = .ok box := by
  obtain ⟨node, inTree, isBox⟩ := List.mem_filterMap.mp member
  have occurs := occurs_of_mem_walk inTree
  generalize node.content = content at isBox occurs
  cases occurs with
  | text inText => exact absurd isBox (by rw [box?_of_occursInText inText]; nofun)
  | element tag => exact absurd isBox nofun
  | shown shows => exact absurd isBox (by rw [box?_of_shows shows]; nofun)
  | box made =>
    obtain ⟨⟩ := isBox
    rwa [index_of_checkbox made]

theorem range_append_range {a b c : Int} (hab : a ≤ b) (hbc : b ≤ c) :
    Int.range a b ++ Int.range b c = Int.range a c := by
  have length : (c - a).toNat = (b - a).toNat + (c - b).toNat := by omega
  have start : a + ((b - a).toNat : Int) = b := by omega
  rw [Int.range, Int.range, Int.range, length, List.range_add, List.map_append, List.map_map]
  refine congrArg _ (List.map_congr_left fun k _ => ?_)
  rw [Function.comp_apply]
  omega

theorem range_self (a : Int) : Int.range a a = [] := by
  simp [Int.range]

theorem range_zero (b : Int) :
    Int.range 0 b = (List.range b.toNat).map fun k : Nat => (k : Int) := by
  rw [Int.range, sub_zero]
  exact List.map_congr_left fun k _ => zero_add (k : Int)

theorem range_succ (a : Int) : Int.range a (a + 1) = [a] := by
  rw [Int.range, add_sub_cancel_left]
  simp

/-- The boxes of a stretch are numbered from the count before it to the count after it. -/
def Numbered (before : Pass) (made : List Node × Pass) : Prop :=
  (Node.boxesAll made.1).map Checkbox.index = Int.range before.next made.2.next ∧
    before.next ≤ made.2.next

/-- For one tree: its boxes are numbered from the count before to the count after. -/
theorem numbered_singleton {before after : Pass} {tree : Node} : Numbered before ([tree], after) ↔
    tree.boxes.map Checkbox.index = Int.range before.next after.next ∧
      before.next ≤ after.next := by
  rw [Numbered, Node.boxesAll_cons, Node.boxesAll_nil, List.append_nil]

theorem kept_numbered (rules : List Rule) (ctx : Context) : Kept rules ctx Numbered where
  nil pass := ⟨(range_self pass.next).symm, le_refl _⟩
  cons {pass node middle nodes after} first rest := by
    obtain ⟨numbers, le⟩ := numbered_singleton.mp first
    obtain ⟨numbers', le'⟩ := rest
    refine ⟨?_, le_trans le le'⟩
    rw [Node.boxesAll_cons, List.map_append, numbers, numbers', range_append_range le le']
  text value pass := by
    have same := @next_transformText ctx value pass
    refine numbered_singleton.mpr ⟨?_, le_of_eq same.symm⟩
    rw [Node.boxes_transformText, same, range_self, List.map_nil]
  shown decided none built inside := by
    obtain ⟨content, shows, rfl⟩ := Rule.shows_of_decideAll decided none built
    refine numbered_singleton.mpr ?_
    rw [Node.boxes_mk_of_box? (box?_of_shows shows)]
    exact inside
  numbered {site build pass node} decided built := by
    obtain ⟨-, box, made, rfl⟩ := Rule.box_of_decideAll decided built
    refine numbered_singleton.mpr ⟨?_, Int.le_add_one (le_refl _)⟩
    rw [Node.boxes_leaf_checkbox, range_succ, List.map_singleton, index_of_checkbox made]
  enclosed tag inside := by
    refine numbered_singleton.mpr ?_
    rw [Node.element, Node.boxes_mk_of_box? rfl]
    exact inside
  again _ inside := inside

theorem numbered_transform (rules : List Rule) (ctx : Context) (document : Markup) (start : Int) :
    Numbered (Pass.start start) (alone (transform rules ctx document start)) :=
  (kept_numbered rules ctx).transformNode [] [] document (Pass.start start)

/-- **The boxes of a tree are numbered without gaps**, in document order, from the first number to
the count at the end, whatever rules failed on the way. -/
theorem index_boxes_transform (rules : List Rule) (ctx : Context) (document : Markup)
    (start : Int) :
    (transform rules ctx document start).1.boxes.map Checkbox.index =
        Int.range start (transform rules ctx document start).2.next ∧
      start ≤ (transform rules ctx document start).2.next :=
  numbered_singleton.mp (numbered_transform rules ctx document start)

end GuideMarkup
