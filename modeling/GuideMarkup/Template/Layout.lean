import GuideMarkup.Template.Basic

/-!
# Template/Layout — how a value fills the place of a field

    [[fill] alignment] [sign] [z] [#] [0] [width] [grouping] [.precision] [kind]

A text is cut to the precision and padded to the width.  How numbers are laid out stands in a module
of its own.
-/

namespace GuideMarkup

/-- Where a value stands in its place. -/
inductive Alignment where
  | left
  | center
  | right
  /-- The padding stands between the sign and the digits. -/
  | inner
deriving DecidableEq, Repr

/-- The alignment that a character stands for. -/
def Alignment.ofChar? : Char → Option Alignment
  | '<' => some .left
  | '^' => some .center
  | '>' => some .right
  | '=' => some .inner
  | _ => none

/-- How a value is laid out. -/
structure Layout where
  fill : Char
  alignment : Alignment
  sign : Option Char
  /-- A zero never has a sign. -/
  plainZero : Bool
  /-- The base is marked. -/
  marked : Bool
  width : Option Nat
  grouping : Option Char
  precision : Option Nat
  kind : Option Char
deriving Repr

namespace Layout

/-! ## Reading -/

/-- A fill character and an alignment at the front of a text. -/
def takeAlignment : List Char → (Option Char × Option Alignment) × List Char
  | [] => ((none, none), [])
  | [c] =>
    match Alignment.ofChar? c with
    | some alignment => ((none, some alignment), [])
    | none => ((none, none), [c])
  | c :: d :: rest =>
    match Alignment.ofChar? d, Alignment.ofChar? c with
    | some alignment, _ => ((some c, some alignment), rest)
    | none, some alignment => ((none, some alignment), d :: rest)
    | none, none => ((none, none), c :: d :: rest)

/-- One of the given characters at the front of a text. -/
def takeOf (cs : List Char) : List Char → Option Char × List Char
  | [] => (none, [])
  | c :: rest => if cs.contains c then (some c, rest) else (none, c :: rest)

/-- A precision at the front of a text: a point must be followed by a number. -/
def takePrecision : List Char → Except TemplateError (Option Nat × List Char)
  | '.' :: rest => do
    match ← Template.takeNumber rest with
    | (none, _) => throw .layout
    | (some n, after) => return (some n, after)
  | s => .ok (none, s)

/-- **The layout that a text describes**, where `standard` is the alignment of a value whose layout
gives none. -/
def read (standard : Alignment) (s : List Char) : Except TemplateError Layout := do
  let ((fill, alignment), s) := takeAlignment s
  let (sign, s) := takeOf ['+', '-', ' '] s
  let (plainZero, s) := takeOf ['z'] s
  let (marked, s) := takeOf ['#'] s
  let (zero, s) := if fill.isNone then takeOf ['0'] s else (none, s)
  let (width, s) ← Template.takeNumber s
  let (grouping, s) := takeOf [',', '_'] s
  let (precision, s) ← takePrecision s
  if s.length > 1 then throw .layout
  return {
    fill := (fill.or zero).getD ' '
    alignment := alignment.getD (if zero.isSome && standard = .right then .inner else standard)
    plainZero := plainZero.isSome
    marked := marked.isSome
    kind := s.head?
    sign, width, grouping, precision }

/-! ## Padding -/

/-- The widest place that is filled. -/
def maxWidth : Nat := 0x100000000

/-- How many characters of padding a text needs. -/
def missing (layout : Layout) (s : List Char) : Nat :=
  layout.width.getD 0 - s.length

/-- The text in its place, `lead` before any inner padding. -/
def pad (layout : Layout) (lead s : List Char) : Except TemplateError (List Char) :=
  let count := layout.missing (lead ++ s)
  if maxWidth < count then .error .tooWide
  else
    let padding (n : Nat) := List.replicate n layout.fill
    match layout.alignment with
    | .left => .ok (lead ++ s ++ padding count)
    | .center => .ok (padding (count / 2) ++ lead ++ s ++ padding (count - count / 2))
    | .right => .ok (padding count ++ lead ++ s)
    | .inner => .ok (lead ++ padding count ++ s)

/-! ## Texts -/

/-- A text can be laid out so. -/
def suitsText (layout : Layout) : Bool :=
  layout.sign.isNone && !layout.plainZero && !layout.marked && layout.grouping.isNone &&
    layout.alignment != .inner && (layout.kind.isNone || layout.kind == some 's')

/-- **A text laid out.** -/
def ofText (s layout : List Char) : Except TemplateError (List Char) :=
  if layout.isEmpty then .ok s
  else do
    let layout ← read .left layout
    if !layout.suitsText then throw .layout
    layout.pad [] (match layout.precision with | some n => s.take n | none => s)

end Layout

end GuideMarkup
