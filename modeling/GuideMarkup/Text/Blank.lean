/-!
# Text/Blank — blank characters, trimming, pieces and words

The character classes of the library are tables of intervals of code points; `Span.covers` is how a
table is read.

Text is trimmed and cut into words at *blanks*: the white space of the Unicode standard together
with the four ASCII separators U+001C to U+001F.  Zero-width characters are no blanks.
-/

namespace GuideMarkup

/-! ## Intervals of characters -/

/-- An interval of code points, both ends included. -/
structure Span where
  first : Nat
  last : Nat
deriving DecidableEq, Repr

namespace Span

/-- The interval holds the character. -/
def holds (span : Span) (c : Char) : Bool :=
  span.first ≤ c.toNat && c.toNat ≤ span.last

/-- Some interval of the table holds the character. -/
def covers (table : List Span) (c : Char) : Bool :=
  table.any (·.holds c)

theorem holds_iff (span : Span) (c : Char) :
    span.holds c = true ↔ span.first ≤ c.toNat ∧ c.toNat ≤ span.last := by
  simp [holds]

theorem covers_iff (table : List Span) (c : Char) :
    covers table c = true ↔ ∃ span ∈ table, span.first ≤ c.toNat ∧ c.toNat ≤ span.last := by
  simp [covers, holds_iff]

end Span

/-! ## Blanks -/

/-- The blanks, in order. -/
def blankSpans : List Span :=
  [⟨0x09, 0x0D⟩, ⟨0x1C, 0x20⟩, ⟨0x85, 0x85⟩, ⟨0xA0, 0xA0⟩, ⟨0x1680, 0x1680⟩, ⟨0x2000, 0x200A⟩,
    ⟨0x2028, 0x2029⟩, ⟨0x202F, 0x202F⟩, ⟨0x205F, 0x205F⟩, ⟨0x3000, 0x3000⟩]

/-- The character is a blank. -/
def isBlank (c : Char) : Bool :=
  Span.covers blankSpans c

/-- Every character is a blank, as in the empty text. -/
def allBlank (s : List Char) : Bool :=
  s.all isBlank

/-! ## Trimming -/

/-- The text without its leading blanks. -/
def trimLeft (s : List Char) : List Char :=
  s.dropWhile isBlank

/-- The text without its trailing blanks. -/
def trimRight (s : List Char) : List Char :=
  (s.reverse.dropWhile isBlank).reverse

/-- The text without the blanks around it. -/
def trim (s : List Char) : List Char :=
  trimRight (trimLeft s)

/-- Blanks before a text are trimmed away. -/
theorem trimLeft_blank_append {front : List Char} (blank : allBlank front = true) (s : List Char) :
    trimLeft (front ++ s) = trimLeft s :=
  List.dropWhile_append_of_pos (List.all_eq_true.mp blank)

/-- Blanks behind a text are trimmed away. -/
theorem trimRight_append_blank {back : List Char} (blank : allBlank back = true) (s : List Char) :
    trimRight (s ++ back) = trimRight s := by
  rw [trimRight, trimRight, List.reverse_append, List.dropWhile_append_of_pos]
  exact fun c member => List.all_eq_true.mp blank c (List.mem_reverse.mp member)

theorem trimRight_prefix (s : List Char) : trimRight s <+: s := by
  rw [trimRight, ← List.reverse_suffix, List.reverse_reverse]
  exact List.dropWhile_suffix isBlank

/-- **Blanks around a text do not change what it is trimmed to.** -/
theorem trim_blank_append {front back : List Char} (before : allBlank front = true)
    (behind : allBlank back = true) (s : List Char) : trim (front ++ s ++ back) = trim s := by
  have none : back.dropWhile isBlank = [] := by
    rw [← List.append_nil back, List.dropWhile_append_of_pos (List.all_eq_true.mp behind)]
    rfl
  rw [trim, trim, List.append_assoc, trimLeft_blank_append before, trimLeft, trimLeft,
    List.dropWhile_append, none]
  split
  · rename_i blank
    rw [List.isEmpty_iff.mp blank]
  · exact trimRight_append_blank behind _

/-! ## Pieces and words -/

/-- The pieces between the members that satisfy `p`: always one more than there are such members. -/
def pieces {α : Type} (p : α → Bool) : List α → List (List α)
  | [] => [[]]
  | a :: rest =>
    if p a then [] :: pieces p rest
    else match pieces p rest with
      | [] => [[a]]
      | piece :: more => (a :: piece) :: more

/-- The words of a text: its non-empty pieces between blanks. -/
def words (s : List Char) : List (List Char) :=
  (pieces isBlank s).filter (!·.isEmpty)

/-- The first text stands somewhere in the second one. -/
def occursIn (part : List Char) : List Char → Bool
  | [] => part.isEmpty
  | c :: rest => part.isPrefixOf (c :: rest) || occursIn part rest

end GuideMarkup
