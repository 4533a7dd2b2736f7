import GuideMarkup.Double.Notation
import GuideMarkup.Numeral
import GuideMarkup.Template.Layout

/-!
# Template/Number — how a number fills the place of a field

An integer is written in base two, eight, ten or sixteen, with its sign, the mark of its base and
groups of digits as asked, or as the character that it numbers.  A number of double precision is
written in one of the styles of `Style`, with groups in front of its point, or as a percentage; an
integer is laid out so too where that is asked for.
-/

namespace GuideMarkup
namespace Layout

/-! ## Groups -/

/-- The number of digits in a group, where digits may be grouped so. -/
def groupSize? (layout : Layout) : Option Nat :=
  match layout.grouping, layout.kind with
  | none, _ => some 0
  | some _, none => some 3
  | some mark, some kind =>
    if "deEfFgG%".toList.contains kind then some 3
    else if mark = '_' && "boxX".toList.contains kind then some 4
    else none

/-- Digits, least significant first, with the mark after every group. -/
def groups (mark : Char) (size : Nat) : Nat → List Char → List Char
  | _, [] => []
  | count, c :: rest =>
    if count = size then mark :: c :: groups mark size 1 rest
    else c :: groups mark size (count + 1) rest

/-- The number of digits that fill a width when a mark stands between groups. -/
def digitsWithin (size width : Nat) : Nat :=
  if size = 0 then width
  else width / (size + 1) * size + max (width % (size + 1)) 1

/-- The digits of an integer in groups; zeros go on in front of them. -/
def grouped (layout : Layout) (size room : Nat) (digits : List Char) : List Char :=
  let filled := if layout.fill = '0' && layout.alignment = .inner then
      List.replicate (digitsWithin size room - digits.length) '0' ++ digits
    else digits
  match layout.grouping with
  | none => filled
  | some mark => (groups mark size 0 filled.reverse).reverse

/-- The sign of a number. -/
def signOf (layout : Layout) (negative : Bool) : List Char :=
  if negative then ['-'] else match layout.sign with
    | some '+' => ['+']
    | some ' ' => [' ']
    | _ => []

/-! ## Numbers of double precision -/

/-- The greatest precision of a number. -/
def maxPrecision : Nat := 0x7FFFFFFF

/-- The style of a kind of number, if it is one. -/
def style? (layout : Layout) : Option Style :=
  let precision := layout.precision.getD 6
  match layout.kind with
  | none => some (match layout.precision with
    | none => .shortest
    | some count => .general count true)
  | some 'e' | some 'E' => some (.exponent precision)
  | some 'f' | some 'F' | some '%' => some (.places precision)
  | some 'g' | some 'G' | some 'n' => some (.general precision false)
  | some _ => none

/-- The characters as the kind wants them, small or as capitals. -/
def inCase (layout : Layout) (s : List Char) : List Char :=
  if layout.kind.any "EFG".toList.contains then s.map Char.toUpper else s

/-- A number of double precision in the place that a layout describes. -/
def fitReal (layout : Layout) (x : Double) : Except TemplateError (List Char) := do
  if maxPrecision < layout.precision.getD 0 then throw .layout
  match layout.style?, layout.groupSize? with
  | some style, some size =>
    let percent := layout.kind == some '%'
    let x := if percent then x.mul (.ofInt 100) else x
    let written := x.magnitude style layout.marked
    let sign := layout.signOf (x.isNegative && !(layout.plainZero && x.vanishes style))
    let rest := layout.inCase written.rest ++ if percent then ['%'] else []
    let room := layout.width.getD 0 - (sign.length + rest.length)
    let whole := if written.whole.isEmpty then [] else layout.grouped size room written.whole
    layout.pad sign (whole ++ rest)
  | _, _ => throw .layout

/-- **A number of double precision laid out.** -/
def ofReal (x : Double) (layout : List Char) : Except TemplateError (List Char) :=
  if layout.isEmpty then .ok x.display
  else do
    let layout ← read .right layout
    if maxWidth < layout.width.getD 0 then throw .tooWide
    layout.fitReal x

/-! ## Integers -/

/-- The base of a kind of number, and the letter that marks it. -/
def base? : Option Char → Option (Nat × List Char)
  | none | some 'd' | some 'n' => some (10, [])
  | some 'b' => some (2, ['0', 'b'])
  | some 'o' => some (8, ['0', 'o'])
  | some 'x' => some (16, ['0', 'x'])
  | some 'X' => some (16, ['0', 'X'])
  | _ => none

/-- The character that an integer numbers, in the place that a layout describes; one that only half
of a character has gives the replacement character. -/
def fitCharacter (layout : Layout) (n : Int) : Except TemplateError (List Char) :=
  if layout.sign.isSome || layout.marked || layout.grouping.isSome then .error .layout
  else if n < 0 || 0x10FFFF < n then .error .tooLarge
  else
    let code := n.toNat
    layout.pad [] [if 0xD800 ≤ code && code ≤ 0xDFFF then '\uFFFD' else Char.ofNat code]

/-- The digits of an integer in the place that a layout describes. -/
def fitDigits (layout : Layout) (n : Int) : Except TemplateError (List Char) :=
  match base? layout.kind, layout.groupSize? with
  | some (base, mark), some size =>
    let lead := layout.signOf (decide (n < 0)) ++ if layout.marked then mark else []
    let digits := (Nat.toDigits base n.natAbs).map fun c =>
      if layout.kind = some 'X' then c.toUpper else c
    layout.pad lead (layout.grouped size (layout.width.getD 0 - lead.length) digits)
  | _, _ => .error .layout

/-- The layout asks for decimal digits. -/
def isDecimal (layout : Layout) : Bool :=
  layout.kind.all "dn".toList.contains

/-- **An integer laid out.**  Decimal digits can be too many. -/
def ofInt (n : Int) (layout : List Char) : Except TemplateError (List Char) :=
  if layout.isEmpty then
    if Numeral.isWritable n then .ok (toString n).toList else .error .overlong
  else do
    let layout ← read .right layout
    if layout.kind.any "eEfFgG%".toList.contains then
      match Double.ofInt n with
      | .infinite _ => throw .tooLarge
      | x =>
        if maxWidth < layout.width.getD 0 then throw .tooWide
        layout.fitReal x
    else
      if layout.plainZero || layout.precision.isSome then throw .layout
      if layout.isDecimal && !Numeral.isWritable n then throw .overlong
      if maxWidth < layout.width.getD 0 then throw .tooWide
      if layout.kind = some 'c' then layout.fitCharacter n else layout.fitDigits n

end Layout
end GuideMarkup
