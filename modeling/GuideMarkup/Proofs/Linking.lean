import GuideMarkup.Markup.Linked

/-!
# Proofs/Linking — the links between the nodes of a document

    number   node          children   parent   next
       0     #root           1 4
       1     ├─ p            2 3         0       4
       2     │  ├─ a text                1       3
       3     │  └─ br                    1
       4     └─ a text                   0

The nodes of a document are made in document order, and every node is made before it is linked.  So
while an element is filled, the finished nodes in it lie behind it one after the other
(`Cells.filling`), and `Cells.append` adds the newest of them to its children (`append_filling`).
In the end the document lies there as a whole (`ofFragments_eq_layout`), and it hangs together
(`holds_ofFragments`).
-/

namespace GuideMarkup

/-! ## The place of a tree -/

namespace Markup

mutual

/-- The number of nodes of a tree. -/
def size : Markup → Nat
  | .text _ => 1
  | .element _ children => sizeAll children + 1

/-- The number of nodes of a list of trees. -/
def sizeAll : List Markup → Nat
  | [] => 0
  | node :: rest => size node + sizeAll rest

end

/-- The numbers of trees that lie one after the other, the first of them at the number given. -/
def numbers : Nat → List Markup → List Nat
  | _, [] => []
  | number, node :: rest => number :: numbers (number + node.size) rest

mutual

/-- The cells of a tree that lies at the number given. -/
def layout (number : Nat) (parent next : Option Nat) : Markup → Cells
  | .text value => [⟨.text value, [], parent, next⟩]
  | .element tag children =>
    ⟨.element tag, numbers (number + 1) children, parent, next⟩ ::
      layoutAll (number + 1) number none children

/-- The cells of trees that lie one after the other under a parent; the last of them is followed by
the node given. -/
def layoutAll (number parent : Nat) (last : Option Nat) : List Markup → Cells
  | [] => []
  | node :: rest =>
    layout number (some parent) ((numbers (number + node.size) rest).head?.or last) node ++
      layoutAll (number + node.size) parent last rest

end

theorem length_layout : ∀ node number parent next,
    (layout number parent next node).length = size node :=
  node
where
  node : ∀ node number parent next, (layout number parent next node).length = size node
    | .text _, _, _, _ => rfl
    | .element _ children, number, _, _ => by
      rw [layout, size, List.length_cons, all children]
  all : ∀ nodes number parent last, (layoutAll number parent last nodes).length = sizeAll nodes
    | [], _, _, _ => rfl
    | head :: rest, _, _, _ => by
      rw [layoutAll, sizeAll, List.length_append, node head, all rest]

theorem numbers_concat (nodes : List Markup) (node : Markup) (number : Nat) :
    numbers number (nodes ++ [node]) = numbers number nodes ++ [number + sizeAll nodes] := by
  induction nodes generalizing number with
  | nil => rfl
  | cons head rest ih =>
    rw [List.cons_append, numbers, numbers, ih, sizeAll, List.cons_append, Nat.add_assoc]

/-- A tree after others is the next sibling of the last of them. -/
theorem layoutAll_concat (nodes : List Markup) (node : Markup) (number parent : Nat)
    (last : Option Nat) : layoutAll number parent last (nodes ++ [node]) =
      layoutAll number parent (some (number + sizeAll nodes)) nodes ++
        layout (number + sizeAll nodes) (some parent) last node := by
  induction nodes generalizing number with
  | nil => simp [layoutAll, numbers, sizeAll]
  | cons head rest ih =>
    have following : (numbers (number + head.size) (rest ++ [node])).head?.or last =
        (numbers (number + head.size) rest).head?.or (some (number + sizeAll (head :: rest))) := by
      rw [numbers_concat, List.head?_append, sizeAll, Nat.add_assoc]
      cases (numbers (number + head.size) rest).head? <;> rfl
    rw [List.cons_append, layoutAll, following, ih, layoutAll, List.append_assoc, sizeAll,
      Nat.add_assoc]

end Markup

/-! ## Linking -/

namespace Cells

open Markup

theorem modify_length (front rest : Cells) (cell : Cell) (change : Cell → Cell) :
    (front ++ cell :: rest).modify front.length change = front ++ change cell :: rest := by
  induction front with
  | nil => rfl
  | cons head front ih => exact congrArg (head :: ·) ih

theorem getElem?_length (front rest : Cells) (cell : Cell) :
    (front ++ cell :: rest)[front.length]? = some cell := by
  rw [List.getElem?_append_right (Nat.le_refl _), Nat.sub_self]
  rfl

/-- A cell after all others, and the nodes under it; the last of them is followed by the node
given. -/
def spread (front : Cells) (cell : Cell) (last : Option Nat) (nodes : List Markup) : Cells :=
  front ++ cell :: layoutAll (front.length + 1) front.length last nodes

/-- The cell of an element that is filled: it holds the nodes so far and is not linked itself. -/
def unlinked (front : Cells) (tag : Tag) (nodes : List Markup) : Cell :=
  ⟨.element tag, numbers (front.length + 1) nodes, none, none⟩

/-- The cells while an element is filled. -/
def filling (front : Cells) (tag : Tag) (nodes : List Markup) : Cells :=
  spread front (front.unlinked tag nodes) none nodes

variable {front : Cells} {cell : Cell} {last : Option Nat} {tag : Tag} {nodes : List Markup}

theorem length_spread :
    (spread front cell last nodes).length = front.length + 1 + sizeAll nodes := by
  rw [spread, List.length_append, List.length_cons, length_layout.all]
  omega

theorem spread_concat (node : Markup) : spread front cell last (nodes ++ [node]) =
    spread front cell (some (front.length + 1 + sizeAll nodes)) nodes ++
      layout (front.length + 1 + sizeAll nodes) (some front.length) last node := by
  rw [spread, layoutAll_concat, spread, List.append_assoc, List.cons_append]

/-- A node is linked by changing the first of its cells. -/
theorem modify_layout {node : Markup} {number : Nat} {parent parent' next next' : Option Nat}
    {change : Cell → Cell} (at_end : front.length = number) (links : ∀ label children,
      change ⟨label, children, parent, next⟩ = ⟨label, children, parent', next'⟩) (rest : Cells) :
    (front ++ layout number parent next node ++ rest).modify number change =
      front ++ layout number parent' next' node ++ rest := by
  subst at_end
  cases node with
  | text value => simp only [layout, List.append_assoc, List.singleton_append, modify_length, links]
  | element tag children =>
    simp only [layout, List.append_assoc, List.cons_append, modify_length, links]

theorem lastChild?_spread (rest : Cells) :
    (spread front cell last nodes ++ rest).lastChild? front.length = cell.children.getLast? := by
  rw [lastChild?, spread, List.append_assoc, List.cons_append, getElem?_length]
  rfl

/-- The last of the nodes gets its next sibling. -/
theorem follow_filling (rest : Cells) (child : Nat) :
    (filling front tag nodes ++ rest).follow front.length child =
      spread front (front.unlinked tag nodes) (some child) nodes ++ rest := by
  rw [follow, filling, lastChild?_spread, unlinked]
  obtain rfl | ⟨earlier, node, rfl⟩ := List.eq_nil_or_concat nodes
  · rfl
  · rw [List.concat_eq_append, numbers_concat, List.getLast?_concat, spread_concat, spread_concat]
    exact modify_layout length_spread (fun _ _ => rfl) rest

/-- The newest node gets its parent. -/
theorem hold_spread (node : Markup) :
    (spread front cell (some (front.length + 1 + sizeAll nodes)) nodes ++
        layout (front.length + 1 + sizeAll nodes) none none node).modify
      (front.length + 1 + sizeAll nodes)
        (fun cell => { cell with parent := some front.length, next := none }) =
      spread front cell none (nodes ++ [node]) := by
  have linked := @modify_layout (spread front cell (some (front.length + 1 + sizeAll nodes)) nodes)
    node _ none (some front.length) none none
    (fun cell => { cell with parent := some front.length, next := none }) length_spread
    (fun _ _ => rfl) []
  rwa [List.append_nil, List.append_nil, ← spread_concat] at linked

/-- **A finished node is added to the element that is being filled.** -/
theorem append_filling (front : Cells) (tag : Tag) (nodes : List Markup) (node : Markup) :
    (filling front tag nodes ++ layout (filling front tag nodes).length none none node).append
      front.length (filling front tag nodes).length = filling front tag (nodes ++ [node]) := by
  have number : (filling front tag nodes).length = front.length + 1 + sizeAll nodes := length_spread
  rw [number, append, follow_filling, hold_spread, spread, modify_length, filling, spread, unlinked,
    unlinked, numbers_concat]

/-! ## Building -/

theorem addText_filling (text : Option String) :
    addText front.length text (filling front tag nodes) =
      filling front tag (nodes ++ ofText text) := by
  cases text with
  | none => rw [addText, ofText, List.append_nil]
  | some value =>
    rw [addText, ofText]
    split
    · rw [List.append_nil]
    · exact append_filling front tag nodes (.text value)

/-- **What a raw node becomes is added to the element that is being filled.** -/
theorem addRaw_filling : ∀ (raw : RawNode) (front : Cells) (tag : Tag) (nodes : List Markup),
    addRaw front.length raw (filling front tag nodes) = filling front tag (nodes ++ ofRaw raw) :=
  raw
where
  raw : ∀ (raw : RawNode) (front : Cells) (tag : Tag) (nodes : List Markup),
      addRaw front.length raw (filling front tag nodes) = filling front tag (nodes ++ ofRaw raw)
    | .element name attributes inside children tail, front, tag, nodes => by
      -- The child is filled behind all that was there before it, and is linked when it is whole.
      let child : Tag := ⟨lowerName name, lowerAttributes attributes⟩
      let outer := filling front tag nodes
      have opened : addText outer.length inside (filling outer child []) =
          filling outer child (ofText inside) := addText_filling inside
      have made : addRaws outer.length children (filling outer child (ofText inside)) =
          filling outer child (ofText inside ++ ofRaws children) := all children _ _ _
      have linked : (filling outer child (ofText inside ++ ofRaws children)).append front.length
          outer.length = filling front tag (nodes ++
            [.element child (ofText inside ++ ofRaws children)]) :=
        append_filling front tag nodes (.element child (ofText inside ++ ofRaws children))
      calc addRaw front.length (.element name attributes inside children tail) outer
        _ = addText front.length tail ((addRaws outer.length children (addText outer.length inside
              (filling outer child []))).append front.length outer.length) := rfl
        _ = filling front tag (nodes ++ [.element child (ofText inside ++ ofRaws children)] ++
              ofText tail) := by rw [opened, made, linked, addText_filling]
        _ = filling front tag (nodes ++ ofRaw (.element name attributes inside children tail)) := by
          rw [ofRaw, List.append_assoc]
          rfl
    | .aside _ tail, _, _, _ => by rw [addRaw, ofRaw, addText_filling]
  all : ∀ (raws : List RawNode) (front : Cells) (tag : Tag) (nodes : List Markup),
      addRaws front.length raws (filling front tag nodes) = filling front tag (nodes ++ ofRaws raws)
    | [], _, _, _ => by rw [addRaws, ofRaws, List.append_nil]
    | head :: rest, front, tag, nodes => by
      rw [addRaws, raw head, all rest, ofRaws, List.append_assoc]

theorem addFragment_filling (fragment : Fragment) :
    addFragment front.length fragment (filling front tag nodes) =
      filling front tag (nodes ++ ofFragment fragment) := by
  cases fragment with
  | text value => exact addText_filling (some value)
  | node raw => exact addRaw_filling raw front tag nodes

theorem foldl_addFragment_filling (fragments : List Fragment) (nodes : List Markup) :
    fragments.foldl (fun cells fragment => addFragment front.length fragment cells)
        (filling front tag nodes) =
      filling front tag (nodes ++ fragments.flatMap ofFragment) := by
  induction fragments generalizing nodes with
  | nil => rw [List.foldl_nil, List.flatMap_nil, List.append_nil]
  | cons fragment rest ih =>
    rw [List.foldl_cons, addFragment_filling, ih, List.flatMap_cons, List.append_assoc]

/-- **A document that has been built lies in its cells as a whole.** -/
theorem ofFragments_eq_layout (fragments : List Fragment) :
    ofFragments fragments = layout 0 none none (Markup.ofFragments fragments) :=
  @foldl_addFragment_filling [] ⟨rootName, []⟩ fragments []

example : ofFragments [.node (.element "p" [] (some "a") [.element "br" [] none [] none]
      (some "b"))] =
    [⟨.element ⟨"#root", []⟩, [1, 4], none, none⟩, ⟨.element ⟨"p", []⟩, [2, 3], some 0, some 4⟩,
      ⟨.text "a", [], some 1, some 3⟩, ⟨.element ⟨"br", []⟩, [], some 1, none⟩,
      ⟨.text "b", [], some 0, none⟩] := by
  decide

/-! ## Links -/

mutual

/-- **The tree hangs together in the cells**: the node of the number given has the parent and the
next sibling given, and so it goes on with its children. -/
inductive Holds (cells : Cells) : Nat → Option Nat → Option Nat → Markup → Prop
  | text {number : Nat} {parent next : Option Nat} {value : String}
      (at_number : cells[number]? = some ⟨.text value, [], parent, next⟩) :
      Holds cells number parent next (.text value)
  | element {number : Nat} {parent next : Option Nat} {tag : Tag} {numbers : List Nat}
      {children : List Markup}
      (at_number : cells[number]? = some ⟨.element tag, numbers, parent, next⟩)
      (inside : HoldsAll cells number numbers children) :
      Holds cells number parent next (.element tag children)

/-- The trees hang together in the cells under their parent; each is followed by the next one, and
the last by none. -/
inductive HoldsAll (cells : Cells) : Nat → List Nat → List Markup → Prop
  | nil {parent : Nat} : HoldsAll cells parent [] []
  | cons {parent number : Nat} {numbers : List Nat} {node : Markup} {rest : List Markup}
      (first : Holds cells number (some parent) numbers.head? node)
      (others : HoldsAll cells parent numbers rest) :
      HoldsAll cells parent (number :: numbers) (node :: rest)

end

/-- A tree that lies in the cells as a whole hangs together. -/
theorem holds_layout : ∀ (node : Markup) (front rest : Cells) (parent next : Option Nat),
    (front ++ layout front.length parent next node ++ rest).Holds front.length parent next node :=
  node
where
  node : ∀ (node : Markup) (front rest : Cells) (parent next : Option Nat),
      (front ++ layout front.length parent next node ++ rest).Holds front.length parent next node
    | .text value, front, rest, parent, next => by
      rw [layout, List.append_assoc]
      exact .text (getElem?_length ..)
    | .element tag children, front, rest, parent, next => by
      let cell : Cell := ⟨.element tag, numbers (front.length + 1) children, parent, next⟩
      have inside := all children (front ++ [cell]) rest front.length
      rw [List.length_append, List.append_assoc, List.append_assoc] at inside
      rw [layout, List.append_assoc]
      exact .element (getElem?_length ..) inside
  all : ∀ (nodes : List Markup) (front rest : Cells) (parent : Nat),
      (front ++ layoutAll front.length parent none nodes ++ rest).HoldsAll parent
        (numbers front.length nodes) nodes
    | [], _, _, _ => .nil
    | head :: others, front, rest, parent => by
      let next := (numbers (front.length + head.size) others).head?
      have first := node head front
        (layoutAll (front.length + head.size) parent none others ++ rest) (some parent) next
      have after := all others (front ++ layout front.length (some parent) next head) rest parent
      rw [List.length_append, length_layout] at after
      rw [layoutAll, Option.or_none, numbers, ← List.append_assoc front]
      rw [← List.append_assoc] at first
      exact .cons first after

/-- **A document that has been built hangs together.** -/
theorem holds_ofFragments (fragments : List Fragment) :
    (ofFragments fragments).Holds 0 none none (Markup.ofFragments fragments) := by
  have whole := holds_layout (Markup.ofFragments fragments) [] [] none none
  rw [List.nil_append, List.append_nil] at whole
  rw [ofFragments_eq_layout]
  exact whole

/-- **What hangs together under a number is one tree.** -/
theorem Holds.unique {cells : Cells} : ∀ {node other : Markup} {number : Nat}
    {parent next parent' next' : Option Nat}, cells.Holds number parent next node →
      cells.Holds number parent' next' other → node = other :=
  node
where
  node : ∀ {node other : Markup} {number : Nat} {parent next parent' next' : Option Nat},
      cells.Holds number parent next node → cells.Holds number parent' next' other → node = other
    | _, _, _, _, _, _, _, .text here, .text there => by
      rw [here] at there
      cases there
      rfl
    | _, _, _, _, _, _, _, .text here, .element there _ => by
      rw [here] at there
      cases there
    | _, _, _, _, _, _, _, .element here _, .text there => by
      rw [here] at there
      cases there
    | _, _, _, _, _, _, _, .element here inside, .element there within => by
      rw [here] at there
      cases there
      rw [all inside within]
  all : ∀ {nodes others : List Markup} {parent parent' : Nat} {numbers : List Nat},
      cells.HoldsAll parent numbers nodes → cells.HoldsAll parent' numbers others → nodes = others
    | _, _, _, _, _, .nil, .nil => rfl
    | _, _, _, _, _, .cons first rest, .cons other others => by
      rw [node first other, all rest others]

end Cells

end GuideMarkup
