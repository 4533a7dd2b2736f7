import GuideMarkup.Numeral

/-!
# Coordinate/Literal — one coordinate between brackets

A literal is `[x,y]` with blanks allowed around each number, a minus sign allowed right before its
digits, and digits of any script.  `Literal.read?` reads one at the front of a text and hands back
what follows it, so that nothing is lost (`Literal.read?_append`).
-/

namespace GuideMarkup

/-- A coordinate literal: how it is written, and the numerals in it. -/
structure Literal where
  written : List Char
  x : Numeral
  y : Numeral
deriving DecidableEq, Repr

namespace Literal

/-- The blanks at the front of a text. -/
def blanks (s : List Char) : List Char :=
  s.takeWhile isBlank

/-- The numeral at the front of a text, with an optional `-`. -/
def number? : List Char → Option (Numeral × List Char)
  | '-' :: rest => Numeral.unsigned? true rest
  | s => Numeral.unsigned? false s

/-- The text after `c` and nothing else in front of it. -/
def skip? (c : Char) : List Char → Option (List Char)
  | d :: rest => if d = c then some rest else none
  | [] => none

/-- **The literal at the front of a text**, and the text after it. -/
def read? (s : List Char) : Option (Literal × List Char) := do
  let afterOpen ← skip? '[' s
  let (x, afterX) ← number? (trimLeft afterOpen)
  let afterComma ← skip? ',' (trimLeft afterX)
  let (y, afterY) ← number? (trimLeft afterComma)
  let rest ← skip? ']' (trimLeft afterY)
  return (⟨s.take (s.length - rest.length), x, y⟩, rest)

/-- Both numbers of the literal, if both have a value. -/
def value? (literal : Literal) : Option (Int × Int) :=
  match literal.x.value?, literal.y.value? with
  | some x, some y => some (x, y)
  | _, _ => none

/-! ## What reading leaves -/

theorem unsigned?_suffix {negative : Bool} {s rest : List Char} {n : Numeral}
    (h : Numeral.unsigned? negative s = some (n, rest)) : rest <:+ s ∧ rest.length < s.length := by
  have suffix : ∀ t : List Char, (Numeral.takeDigits t).2 <:+ t := by
    intro t
    induction t with
    | nil => simp [Numeral.takeDigits]
    | cons c u ih =>
      rw [Numeral.takeDigits]
      split
      · exact ih.trans (List.suffix_cons c u)
      · exact List.suffix_rfl
  have hlen := Numeral.length_takeDigits s
  have hsuf := suffix s
  revert h hlen hsuf
  rw [Numeral.unsigned?]
  rcases Numeral.takeDigits s with ⟨_ | ⟨d, ds⟩, u⟩
  · simp
  · simp only [Option.some.injEq, Prod.mk.injEq, and_imp]
    rintro - rfl hlen hsuf
    exact ⟨hsuf, by simp only [List.length_cons] at hlen; omega⟩

theorem number?_suffix {s rest : List Char} {n : Numeral} (h : number? s = some (n, rest)) :
    rest <:+ s ∧ rest.length < s.length := by
  unfold number? at h
  split at h
  · obtain ⟨h1, h2⟩ := unsigned?_suffix h
    exact ⟨h1.trans (List.suffix_cons _ _), by simp only [List.length_cons]; omega⟩
  · exact unsigned?_suffix h

theorem skip?_eq_some_iff {c : Char} {s rest : List Char} :
    skip? c s = some rest ↔ s = c :: rest := by
  cases s with
  | nil => simp [skip?]
  | cons d t =>
    by_cases h : d = c <;> simp [skip?, h]

theorem trimLeft_suffix (s : List Char) : trimLeft s <:+ s :=
  List.dropWhile_suffix _

/-- **Reading a literal splits the text** into what is written and what follows. -/
theorem read?_append {s rest : List Char} {literal : Literal}
    (h : read? s = some (literal, rest)) : literal.written ++ rest = s := by
  simp only [read?, Option.bind_eq_bind, Option.bind_eq_some_iff, Option.pure_def,
    Option.some.injEq, Prod.exists, Prod.mk.injEq, skip?_eq_some_iff] at h
  obtain ⟨a, ha, x, b, hb, c, hc, y, d, hd, e, he, rfl, rfl⟩ := h
  have hs : e <:+ s := by
    have h1 : a <:+ s := ha ▸ List.suffix_cons _ _
    have h2 := (number?_suffix hb).1.trans (trimLeft_suffix a)
    have h3 : c <:+ b := (List.suffix_cons ',' c).trans (hc ▸ trimLeft_suffix b)
    have h4 := (number?_suffix hd).1.trans (trimLeft_suffix c)
    have h5 : e <:+ d := (List.suffix_cons ']' e).trans (he ▸ trimLeft_suffix d)
    exact h5.trans (h4.trans (h3.trans (h2.trans h1)))
  obtain ⟨w, rfl⟩ := hs
  simp

theorem read?_length {s rest : List Char} {literal : Literal}
    (h : read? s = some (literal, rest)) : rest.length < s.length := by
  simp only [read?, Option.bind_eq_bind, Option.bind_eq_some_iff, Option.pure_def,
    Option.some.injEq, Prod.exists, Prod.mk.injEq, skip?_eq_some_iff] at h
  obtain ⟨a, ha, x, b, hb, c, hc, y, d, hd, e, he, rfl, rfl⟩ := h
  have h1 : s.length = a.length + 1 := by simp [ha]
  have h2 := (number?_suffix hb).2
  have h2' := (trimLeft_suffix a).length_le
  have h3 : c.length < b.length := by
    have := (trimLeft_suffix b).length_le
    simp only [hc, List.length_cons] at this
    omega
  have h4 := (number?_suffix hd).2
  have h4' := (trimLeft_suffix c).length_le
  have h5 : e.length < d.length := by
    have := (trimLeft_suffix d).length_le
    simp only [he, List.length_cons] at this
    omega
  omega

end Literal
end GuideMarkup
