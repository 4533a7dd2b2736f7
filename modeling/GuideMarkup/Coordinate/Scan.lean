import GuideMarkup.Coordinate.Literal
import GuideMarkup.Text.Word

/-!
# Coordinate/Scan — the coordinates in running text

    text  =  lead literal tail · lead literal tail · … · rest

A text is cut at its literals, from left to right: `Found` is one literal with the text that leads
to it and the longest run of tail characters after it, and what follows the last one is left over
(`scan`).  A literal whose numbers have no value goes back to the plain text around it (`split?`).
-/

namespace GuideMarkup

/-! ## Cutting at the literals -/

/-- A character of a tail: word characters, blanks and some punctuation. -/
def isTailChar (c : Char) : Bool :=
  isBlank c || ".,:;'\"()?|".toList.contains c || isWordChar c

/-- The text before the first literal, the literal, and the text after it. -/
def firstLiteral? : List Char → Option (List Char × Literal × List Char)
  | [] => none
  | c :: rest =>
    match Literal.read? (c :: rest) with
    | some (literal, after) => some ([], literal, after)
    | none => (firstLiteral? rest).map fun (lead, literal, after) => (c :: lead, literal, after)

theorem firstLiteral?_append {s lead after : List Char} {literal : Literal}
    (h : firstLiteral? s = some (lead, literal, after)) :
    lead ++ literal.written ++ after = s ∧ after.length < s.length := by
  induction s generalizing lead with
  | nil => simp [firstLiteral?] at h
  | cons c rest ih =>
    rw [firstLiteral?] at h
    split at h
    · rename_i literal' after' hread
      simp only [Option.some.injEq, Prod.mk.injEq] at h
      obtain ⟨rfl, rfl, rfl⟩ := h
      exact ⟨Literal.read?_append hread, Literal.read?_length hread⟩
    · simp only [Option.map_eq_some_iff, Prod.exists, Prod.mk.injEq] at h
      obtain ⟨lead', _, _, hrest, rfl, rfl, rfl⟩ := h
      obtain ⟨h1, h2⟩ := ih hrest
      exact ⟨by simp [← h1], by simp only [List.length_cons]; omega⟩

/-- A literal in its place: the text that leads to it, and its tail. -/
structure Found where
  lead : List Char
  literal : Literal
  tail : List Char
deriving DecidableEq, Repr

namespace Found

/-- The text that the literal was found in. -/
def written (found : Found) : List Char :=
  found.lead ++ found.literal.written ++ found.tail

end Found

/-- **The literals of a text in their places**, and the text after the last tail. -/
def scan (s : List Char) : List Found × List Char :=
  match h : firstLiteral? s with
  | none => ([], s)
  | some (lead, literal, after) =>
    have : (after.dropWhile isTailChar).length < s.length :=
      Nat.lt_of_le_of_lt (List.dropWhile_suffix _).length_le (firstLiteral?_append h).2
    let (more, rest) := scan (after.dropWhile isTailChar)
    (⟨lead, literal, after.takeWhile isTailChar⟩ :: more, rest)
termination_by s.length

/-! ## Values -/

/-- A coordinate in its place, with its numbers. -/
structure Coordinate where
  lead : List Char
  x : Int
  y : Int
  tail : List Char
deriving DecidableEq, Repr

/-- A part of a text: plain text, or a coordinate with the text around it. -/
inductive Piece where
  | plain (text : List Char)
  | coordinate (found : Coordinate)
deriving DecidableEq, Repr

/-- The coordinate at a literal, if both its numbers have a value. -/
def Found.coordinate? (found : Found) : Option Coordinate :=
  found.literal.value?.map fun (x, y) => ⟨found.lead, x, y, found.tail⟩

/-- **The coordinates of a text**, from left to right. -/
def coordinates (text : List Char) : List Coordinate :=
  (scan text).1.filterMap Found.coordinate?

/-- A plain piece, unless it is empty. -/
def plainPiece (text : List Char) : List Piece :=
  if text.isEmpty then [] else [.plain text]

/-- The pieces of the literals found, where `pending` is plain text that has not been handed out,
and the text after the last of them is `rest`. -/
def piecesOf (pending : List Char) : List Found → List Char → List Piece
  | [], rest => plainPiece (pending ++ rest)
  | found :: more, rest =>
    match found.coordinate? with
    | some coordinate => plainPiece pending ++ .coordinate coordinate :: piecesOf [] more rest
    | none => piecesOf (pending ++ found.written) more rest

/-- **The text cut into plain pieces and coordinates**; a text without coordinates is not cut. -/
def split? (text : List Char) : Option (List Piece) :=
  if (coordinates text).isEmpty then none
  else some (piecesOf [] (scan text).1 (scan text).2)

/-! ## Copying -/

/-- The text that a coordinate puts on the clipboard: the coordinate itself, or the travel command
to it. -/
def copyText (x y : Int) (travel : Bool) : String :=
  if travel then "/travel " ++ toString x ++ "," ++ toString y
  else "[" ++ toString x ++ "," ++ toString y ++ "]"

end GuideMarkup
