import GuideMarkup.Outer.Outline.Line

/-!
# Outer/Outline/Verbatim — texts that stand in lines of their own

    message: |        # the lines below, as they are
      first line
      second line

After a vertical line the breaks are kept; after a greater-than sign single breaks are joined.  The
first line gives the indentation, unless a digit does, and a sign says what becomes of the breaks
at the end.
-/

namespace GuideMarkup
namespace Outline

/-! ## Head -/

/-- What becomes of the breaks at the end of a verbatim text. -/
inductive Chomping where
  /-- One of them is kept. -/
  | clip
  /-- None is kept. -/
  | strip
  /-- All are kept. -/
  | keep
deriving DecidableEq, Repr

/-- The chomping that a sign stands for. -/
def Chomping.ofChar? : Char → Option Chomping
  | '+' => some .keep
  | '-' => some .strip
  | _ => none

/-- The indentation that a digit stands for. -/
def indentOfDigit? (c : Char) : Option Nat :=
  if '1' ≤ c && c ≤ '9' then some (c.toNat - 48) else none

/-- The sign and the digit after the mark of a verbatim text, in any order, and what follows. -/
def verbatimHead (s : List Char) : (Chomping × Option Nat) × List Char :=
  match s with
  | [] => ((.clip, none), [])
  | c :: rest =>
    match Chomping.ofChar? c, indentOfDigit? c with
    | some chomping, _ =>
      match rest.head?.bind indentOfDigit? with
      | some digit => ((chomping, some digit), rest.tail)
      | none => ((chomping, none), rest)
    | none, some digit =>
      match rest.head?.bind Chomping.ofChar? with
      | some chomping => ((chomping, some digit), rest.tail)
      | none => ((.clip, some digit), rest)
    | none, none => ((.clip, none), c :: rest)

/-! ## Lines -/

/-- The breaks at the front, last first, with at most `limit` spaces before each of them, the
spaces after the last one, and what follows. -/
def blankLines (limit : Nat) : List Char → Nat → List Char → List Char × Nat × List Char
  | breaks, column, [] => (breaks, column, [])
  | breaks, column, c :: rest =>
    if c = ' ' && decide (column < limit) then blankLines limit breaks (column + 1) rest
    else if isBreak c then blankLines limit (breakText c :: breaks) 0 rest
    else (breaks, column, c :: rest)

/-- The widest indentation of the blank lines at the front and the line after them. -/
def widestIndent : Nat → Nat → List Char → Nat
  | widest, _, [] => widest
  | widest, column, c :: rest =>
    if c = ' ' then widestIndent (max widest (column + 1)) (column + 1) rest
    else if isBreak c then widestIndent widest 0 rest
    else widest

/-- The break at the front, and what follows it. -/
def takeBreak : List Char → Option Char × List Char
  | [] => (none, [])
  | c :: rest => (some (breakText c), rest)

/-- A blank comes next. -/
def startsBlank (s : List Char) : Bool :=
  s.head? == some ' ' || s.head? == some '\t'

/-- The lines of a verbatim text, last character first: the text, the last break and the breaks
after it.  `breaks` are those in front of the line at hand, which is indented by `column`. -/
def verbatimLines (folded : Bool) (indent : Nat) :
    Nat → List Char → Option Char → List Char → Nat → List Char →
      List Char × Option Char × List Char × List Char
  | 0, soFar, last, breaks, _, s => (soFar, last, breaks, s)
  | fuel + 1, soFar, last, breaks, column, s =>
    if column != indent || s.isEmpty then (soFar, last, breaks, s)
    else
      let line := s.takeWhile (!isBreak ·)
      let (ending, after) := takeBreak (s.dropWhile (!isBreak ·))
      let (blank, next, following) := blankLines indent [] 0 after
      let soFar := line.reverse ++ breaks ++ soFar
      let joined :=
        if next != indent || following.isEmpty then []
        else if folded && ending == some '\n' && !startsBlank s && !startsBlank following then
          if blank.isEmpty then [' '] else []
        else ending.toList
      verbatimLines folded indent fuel (joined ++ soFar) ending blank next following

/-- **The verbatim text after its mark, and what follows it**, where `outer` is the least
indentation of its lines. -/
def verbatimText (folded : Bool) (outer : Nat) (s : List Char) :
    Except Fault (List Char × List Char) :=
  let ((chomping, digit), head) := verbatimHead s
  if !(head.isEmpty || head.head?.any fun c => c == ' ' || isBreak c) then .error .malformed
  else match afterLine? head with
    | none => .error .malformed
    | some body =>
      let least := max outer 1
      let indent := match digit with
        | some n => least + n - 1
        | none => max least (widestIndent 0 0 body)
      let limit := match digit with
        | some _ => indent
        | none => body.length
      let (breaks, column, start) := blankLines limit [] 0 body
      let (text, last, more, rest) :=
        verbatimLines folded indent (body.length + 1) [] none breaks column start
      let ending := match chomping with
        | .strip => []
        | .clip => last.toList
        | .keep => more ++ last.toList
      .ok ((ending ++ text).reverse, rest)

end Outline
end GuideMarkup
