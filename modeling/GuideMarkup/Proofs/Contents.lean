import GuideMarkup.Proofs.Linking
import GuideMarkup.Proofs.Tables
import Mathlib.Data.List.Forall2

/-!
# Proofs/Contents — what a document keeps of its fragments

    fragments   <P>one <!-- two -->three<BR></P> four     ("three" hangs on the aside, " four" on P)
    document    <p>one three<br></p> four

A document has the elements of the fragments and all of the text that hangs on them, in the order of
the fragments: every element stands behind the same text, has the same text in it, and is as deep
(`Placed`).  Only names change, to small letters, and asides go without their own text
(`keeps_ofFragments`).
-/

namespace GuideMarkup

/-! ## Elements in their places -/

/-- An element in its place. -/
structure Placed (α : Type) where
  /-- The number of elements around it. -/
  depth : Nat
  /-- The text of the document in front of it. -/
  before : List Char
  opening : α
  /-- The text in it. -/
  inside : List Char

namespace Markup

mutual

/-- The elements of a tree in document order, where the tree has the depth and the text before it
that are given. -/
def placed (depth : Nat) (before : List Char) : Markup → List (Placed Tag)
  | .text _ => []
  | .element tag children =>
    ⟨depth, before, tag, allTextOf children⟩ :: placedAll (depth + 1) before children

/-- The elements of a list of trees. -/
def placedAll (depth : Nat) (before : List Char) : List Markup → List (Placed Tag)
  | [] => []
  | node :: rest => placed depth before node ++ placedAll depth (before ++ allText node) rest

end

end Markup

/-- An opening tag as it was written: a name and attributes. -/
abbrev RawTag := String × List (String × String)

namespace RawNode

/-- A text that hangs on a node, if there is one. -/
def hung (text : Option String) : List Char :=
  (text.getD "").toList

mutual

/-- The text of a raw node, and the text after it; an aside has none of its own. -/
def allText : RawNode → List Char
  | .element _ _ inside children tail => hung inside ++ allTextOf children ++ hung tail
  | .aside _ tail => hung tail

/-- The text of a list of raw nodes. -/
def allTextOf : List RawNode → List Char
  | [] => []
  | raw :: rest => allText raw ++ allTextOf rest

end

mutual

/-- The elements of a raw node in document order. -/
def placed (depth : Nat) (before : List Char) : RawNode → List (Placed RawTag)
  | .element name attributes inside children _ =>
    ⟨depth, before, (name, attributes), hung inside ++ allTextOf children⟩ ::
      placedAll (depth + 1) (before ++ hung inside) children
  | .aside _ _ => []

/-- The elements of a list of raw nodes. -/
def placedAll (depth : Nat) (before : List Char) : List RawNode → List (Placed RawTag)
  | [] => []
  | raw :: rest => placed depth before raw ++ placedAll depth (before ++ allText raw) rest

end

end RawNode

namespace Fragment

/-- The text of a fragment, and the text after it. -/
def allText : Fragment → List Char
  | .text value => value.toList
  | .node raw => raw.allText

/-- The elements of a fragment in document order. -/
def placed (depth : Nat) (before : List Char) : Fragment → List (Placed RawTag)
  | .text _ => []
  | .node raw => raw.placed depth before

/-- The elements of a list of fragments. -/
def placedAll (depth : Nat) (before : List Char) : List Fragment → List (Placed RawTag)
  | [] => []
  | fragment :: rest =>
    fragment.placed depth before ++ placedAll depth (before ++ fragment.allText) rest

end Fragment

/-- **The element is the raw one in small letters**, in the same place and with the same text: its
name and the names of its attributes are lower-cased.  Of attributes that become one the last has
its way. -/
structure Placed.Lowers (raw : Placed RawTag) (placed : Placed Tag) : Prop where
  depth : placed.depth = raw.depth
  before : placed.before = raw.before
  inside : placed.inside = raw.inside
  name : placed.opening.name = Markup.lowerName raw.opening.1
  namesOnce : placed.opening.attributes.Distinct
  attr? : ∀ name, placed.opening.attr? name = (raw.opening.2.reverse.map fun (written, value) =>
    (Markup.lowerName written, value)).lookup name

/-! ## Texts -/

namespace Markup

theorem allTextOf_append (nodes more : List Markup) :
    allTextOf (nodes ++ more) = allTextOf nodes ++ allTextOf more := by
  induction nodes with
  | nil => rfl
  | cons node rest ih => rw [List.cons_append, allTextOf, allTextOf, ih, List.append_assoc]

theorem allTextOf_ofText (text : Option String) : allTextOf (ofText text) = RawNode.hung text := by
  rcases text with _ | value
  · rfl
  · rw [ofText]
    split
    · rename_i empty
      rw [String.isEmpty_iff] at empty
      rw [empty]
      rfl
    · simp [allTextOf, allText, RawNode.hung]

/-- **The text of a raw node is kept.** -/
theorem allTextOf_ofRaw : ∀ raw : RawNode, allTextOf (ofRaw raw) = raw.allText :=
  raw
where
  raw : ∀ raw : RawNode, allTextOf (ofRaw raw) = raw.allText
    | .element _ _ inside children tail => by
      rw [ofRaw, allTextOf, allText, allTextOf_append, allTextOf_ofText, allTextOf_ofText,
        all children, RawNode.allText]
    | .aside _ tail => allTextOf_ofText tail
  all : ∀ raws : List RawNode, allTextOf (ofRaws raws) = RawNode.allTextOf raws
    | [] => rfl
    | head :: rest => by
      rw [ofRaws, allTextOf_append, raw head, all rest, RawNode.allTextOf]

theorem allTextOf_ofFragment (fragment : Fragment) :
    allTextOf (ofFragment fragment) = fragment.allText := by
  cases fragment with
  | text value => exact allTextOf_ofText (some value)
  | node raw => exact allTextOf_ofRaw raw

/-! ## Elements -/

theorem placedAll_append (nodes more : List Markup) (depth : Nat) (before : List Char) :
    placedAll depth before (nodes ++ more) =
      placedAll depth before nodes ++ placedAll depth (before ++ allTextOf nodes) more := by
  induction nodes generalizing before with
  | nil => rw [List.nil_append, placedAll, allTextOf, List.append_nil, List.nil_append]
  | cons node rest ih =>
    rw [List.cons_append, placedAll, placedAll, ih, allTextOf, List.append_assoc, List.append_assoc]

theorem placedAll_ofText (text : Option String) (depth : Nat) (before : List Char) :
    placedAll depth before (ofText text) = [] := by
  rcases text with _ | value
  · rfl
  · rw [ofText]
    split <;> rfl

theorem lowers_element (depth : Nat) (before inside : List Char) (name : String)
    (attributes : List (String × String)) :
    Placed.Lowers ⟨depth, before, (name, attributes), inside⟩
      ⟨depth, before, ⟨lowerName name, lowerAttributes attributes⟩, inside⟩ where
  depth := rfl
  before := rfl
  inside := rfl
  name := rfl
  namesOnce := Table.distinct_ofEntries _
  attr? asked := by
    rw [Tag.attr?, lowerAttributes, Table.ofEntries, Table.lookup_update_reverse, List.lookup_nil,
      Option.or_none, List.map_reverse]

/-- **The elements of a raw node are kept**, in small letters. -/
theorem lowers_ofRaw : ∀ (raw : RawNode) (depth : Nat) (before : List Char),
    List.Forall₂ Placed.Lowers (raw.placed depth before) (placedAll depth before (ofRaw raw)) :=
  raw
where
  raw : ∀ (raw : RawNode) (depth : Nat) (before : List Char),
      List.Forall₂ Placed.Lowers (raw.placed depth before) (placedAll depth before (ofRaw raw))
    | .element name attributes inside children tail, depth, before => by
      have below := all children (depth + 1) (before ++ RawNode.hung inside)
      rw [ofRaw, placedAll, placedAll_ofText, List.append_nil, placed, placedAll_append,
        placedAll_ofText, List.nil_append, allTextOf_append, allTextOf_ofText, allTextOf_ofRaw.all,
        RawNode.placed]
      exact .cons (lowers_element ..) below
    | .aside _ tail, depth, before => by
      rw [ofRaw, placedAll_ofText]
      exact .nil
  all : ∀ (raws : List RawNode) (depth : Nat) (before : List Char),
      List.Forall₂ Placed.Lowers (RawNode.placedAll depth before raws)
        (placedAll depth before (ofRaws raws))
    | [], _, _ => .nil
    | head :: rest, depth, before => by
      rw [ofRaws, placedAll_append, allTextOf_ofRaw, RawNode.placedAll]
      exact List.rel_append (raw head depth before) (all rest depth _)

theorem lowers_ofFragments (fragments : List Fragment) (depth : Nat) (before : List Char) :
    List.Forall₂ Placed.Lowers (Fragment.placedAll depth before fragments)
      (placedAll depth before (fragments.flatMap ofFragment)) := by
  induction fragments generalizing before with
  | nil => exact .nil
  | cons fragment rest ih =>
    have first : List.Forall₂ Placed.Lowers (fragment.placed depth before)
        (placedAll depth before (ofFragment fragment)) := by
      cases fragment with
      | text value =>
        rw [ofFragment, placedAll_ofText]
        exact .nil
      | node raw => exact lowers_ofRaw raw depth before
    rw [List.flatMap_cons, placedAll_append, allTextOf_ofFragment, Fragment.placedAll]
    exact List.rel_append first (ih _)

theorem allTextOf_ofFragments (fragments : List Fragment) :
    allTextOf (fragments.flatMap ofFragment) = fragments.flatMap Fragment.allText := by
  induction fragments with
  | nil => rfl
  | cons fragment rest ih =>
    rw [List.flatMap_cons, allTextOf_append, allTextOf_ofFragment, ih, List.flatMap_cons]

end Markup

/-! ## Empty texts -/

namespace Cells

/-- No node is an empty text. -/
def NoEmptyText (cells : Cells) : Prop :=
  ∀ cell ∈ cells, cell.label ≠ .text ""

theorem map_label_modify {change : Cell → Cell} (keeps : ∀ cell, (change cell).label = cell.label)
    (cells : Cells) (number : Nat) :
    (cells.modify number change).map Cell.label = cells.map Cell.label := by
  refine List.ext_getElem? fun other => ?_
  rw [List.getElem?_map, List.getElem?_map, List.getElem?_modify]
  cases cells[other]? with
  | none => rfl
  | some cell =>
    by_cases here : number = other
    · simp [here, keeps]
    · simp [here]

/-- Linking changes links only. -/
theorem map_label_append (cells : Cells) (parent child : Nat) :
    (cells.append parent child).map Cell.label = cells.map Cell.label := by
  have followed : (cells.follow parent child).map Cell.label = cells.map Cell.label := by
    rw [follow]
    split
    · rw [map_label_modify]
      exact fun _ => rfl
    · rfl
  rw [append, map_label_modify, map_label_modify, followed]
  · exact fun _ => rfl
  · exact fun _ => rfl

namespace NoEmptyText

variable {cells : Cells}

theorem iff_labels : cells.NoEmptyText ↔ ∀ label ∈ cells.map Cell.label, label ≠ .text "" :=
  (List.forall_mem_map (P := (· ≠ Label.text ""))).symm

theorem append (full : cells.NoEmptyText) (parent child : Nat) :
    (cells.append parent child).NoEmptyText := by
  rw [iff_labels, map_label_append, ← iff_labels]
  exact full

theorem concat (full : cells.NoEmptyText) {label : Label} (content : label ≠ .text "") :
    (cells ++ [Cell.fresh label]).NoEmptyText :=
  List.forall_mem_append.mpr ⟨full, List.forall_mem_singleton.mpr content⟩

theorem addText (full : cells.NoEmptyText) (parent : Nat) (text : Option String) :
    (addText parent text cells).NoEmptyText := by
  rcases text with _ | value
  · exact full
  · rw [Cells.addText]
    split
    · exact full
    · rename_i content
      have label : Label.text value ≠ .text "" := fun same =>
        content (String.isEmpty_iff.mpr (Label.text.inj same))
      exact (full.concat label).append _ _

theorem addRaw : ∀ (raw : RawNode) (parent : Nat) {cells : Cells}, cells.NoEmptyText →
    (addRaw parent raw cells).NoEmptyText :=
  raw
where
  raw : ∀ (raw : RawNode) (parent : Nat) {cells : Cells}, cells.NoEmptyText →
      (Cells.addRaw parent raw cells).NoEmptyText
    | .element name attributes inside children tail, parent, cells, full => by
      have opened : NoEmptyText (cells ++ [Cell.fresh (.element
          ⟨Markup.lowerName name, Markup.lowerAttributes attributes⟩)]) := full.concat nofun
      have made := all children cells.length (opened.addText cells.length inside)
      rw [Cells.addRaw]
      exact (made.append parent cells.length).addText parent tail
    | .aside _ tail, parent, cells, full => by
      rw [Cells.addRaw]
      exact full.addText parent tail
  all : ∀ (raws : List RawNode) (parent : Nat) {cells : Cells}, cells.NoEmptyText →
      (addRaws parent raws cells).NoEmptyText
    | [], _, _, full => full
    | head :: rest, parent, _, full => all rest parent (raw head parent full)

theorem ofFragments (fragments : List Fragment) : (ofFragments fragments).NoEmptyText := by
  have root : NoEmptyText [Cell.fresh (.element ⟨Markup.rootName, []⟩)] :=
    List.forall_mem_singleton.mpr nofun
  refine List.foldlRecOn fragments _ root fun cells full fragment _ => ?_
  cases fragment with
  | text value => exact full.addText 0 (some value)
  | node raw => exact addRaw raw 0 full

end NoEmptyText
end Cells

/-! ## Documents -/

/-- **A document keeps what its fragments hold.**  Its nodes hang together from the root on; behind
the root stand the elements of the fragments, in small letters; and no text is lost, none is added,
and none is empty. -/
theorem keeps_ofFragments (fragments : List Fragment) : ∃ nodes,
    Markup.ofFragments fragments = .root nodes ∧
      (Cells.ofFragments fragments).Holds 0 none none (.root nodes) ∧
      List.Forall₂ Placed.Lowers (Fragment.placedAll 1 [] fragments) (Markup.placedAll 1 [] nodes) ∧
      Markup.allTextOf nodes = fragments.flatMap Fragment.allText ∧
      (Cells.ofFragments fragments).NoEmptyText :=
  ⟨fragments.flatMap Markup.ofFragment, rfl, Cells.holds_ofFragments fragments,
    Markup.lowers_ofFragments fragments 1 [], Markup.allTextOf_ofFragments fragments,
    Cells.NoEmptyText.ofFragments fragments⟩

end GuideMarkup
