import GuideMarkup.Coordinate.Scan

/-!
# Proofs/Literals — what a coordinate literal is

    [ blanks numeral blanks , blanks numeral blanks ]

`Numeral.Spells` and `Literal.Spells` are the grammar of literals; they know nothing of reading.
Reading finds a literal at the front of a text just if one stands there (`Literal.begins_iff`), and
there is never more than one (`Literal.Spells.unique`), since no blank is a digit and neither of
them is a mark.
-/

namespace GuideMarkup

/-! ## Characters -/

/-- The text does not begin with one of the characters in question. -/
def StartsWithout (p : Char → Bool) (s : List Char) : Prop :=
  ∀ c ∈ s.head?, p c = false

theorem startsWithout_cons {p : Char → Bool} {c : Char} {s : List Char} :
    StartsWithout p (c :: s) ↔ p c = false := by
  simp [StartsWithout]

theorem StartsWithout.of_append {p : Char → Bool} {s rest : List Char}
    (stops : StartsWithout p (s ++ rest)) : StartsWithout p s := by
  rcases s with _ | ⟨c, s⟩
  · exact nofun
  · exact stops

theorem StartsWithout.append {p : Char → Bool} {s : List Char} (stops : StartsWithout p s)
    (nonempty : s ≠ []) (rest : List Char) : StartsWithout p (s ++ rest) := by
  rcases s with _ | ⟨c, s⟩
  · exact absurd rfl nonempty
  · exact stops

theorem dropWhile_append {p : Char → Bool} {s rest : List Char} (all : ∀ c ∈ s, p c = true)
    (stops : StartsWithout p rest) : (s ++ rest).dropWhile p = rest := by
  rw [List.dropWhile_append_of_pos all]
  rcases rest with _ | ⟨c, rest⟩
  · rfl
  · rw [List.dropWhile_cons_of_neg (by simp [startsWithout_cons.mp stops])]

theorem takeWhile_append {p : Char → Bool} {s rest : List Char} (all : ∀ c ∈ s, p c = true)
    (stops : StartsWithout p rest) : (s ++ rest).takeWhile p = s := by
  rw [List.takeWhile_append_of_pos all]
  rcases rest with _ | ⟨c, rest⟩
  · exact List.append_nil s
  · rw [List.takeWhile_cons_of_neg (by simp [startsWithout_cons.mp stops]), List.append_nil]

theorem not_digitZeros_of_blankSpans : ∀ z ∈ digitZeros, ∀ span ∈ blankSpans,
    span.last < z ∨ z + 10 ≤ span.first := by
  decide

/-- **No digit is a blank.** -/
theorem isBlank_of_isDecimal {c : Char} (digit : isDecimal c = true) : isBlank c = false := by
  rw [isDecimal, digitValue?, Option.isSome_map, Option.isSome_iff_exists] at digit
  obtain ⟨z, found⟩ := digit
  have inScript := List.find?_some found
  simp only [Bool.and_eq_true, decide_eq_true_eq] at inScript
  rw [Bool.eq_false_iff, isBlank, ne_eq, Span.covers_iff]
  rintro ⟨span, member, first, last⟩
  have apart := not_digitZeros_of_blankSpans z (List.mem_of_find?_eq_some found) span member
  omega

/-! ## Numerals -/

/-- An integer is written in digits, after a minus sign if it is negative. -/
theorem toList_toString (n : Int) : (toString n).toList =
    if n < 0 then '-' :: Nat.toDigits 10 n.natAbs else Nat.toDigits 10 n.natAbs := by
  rcases n with n | n
  · have written : toString (Int.ofNat n) = toString n := rfl
    have natural : ¬Int.ofNat n < 0 := Int.not_lt.mpr (Int.natCast_nonneg n)
    rw [written, Nat.toString_eq_ofList_toDigits, String.toList_ofList, if_neg natural]
    rfl
  · have written : toString (Int.negSucc n) = "-" ++ toString (n + 1) := rfl
    simp [written, Int.negSucc_lt_zero]

namespace Numeral

/-- **How a numeral is spelled**: its digits in some scripts, after a minus sign if it is
negative. -/
def Spells (n : Numeral) (s : List Char) : Prop :=
  ∃ digits : List Char, digits ≠ [] ∧ digits.map digitValue? = n.digits.map some ∧
    s = if n.negative then '-' :: digits else digits

theorem takeDigits_append {rest : List Char} (stops : StartsWithout isDecimal rest) :
    ∀ {digits : List Char} {values : List Nat}, digits.map digitValue? = values.map some →
      takeDigits (digits ++ rest) = (values, rest)
  | [], values, same => by
    obtain rfl : values = [] := by simpa using same.symm
    rcases rest with _ | ⟨c, rest⟩
    · rfl
    · have noDigit := startsWithout_cons.mp stops
      rw [isDecimal, Option.isSome_eq_false_iff, Option.isNone_iff_eq_none] at noDigit
      rw [List.nil_append, takeDigits, noDigit]
  | c :: digits, [], same => absurd same (by simp)
  | c :: digits, d :: values, same => by
    rw [List.map_cons, List.map_cons, List.cons.injEq] at same
    rw [List.cons_append, takeDigits, same.1, takeDigits_append stops same.2]

theorem exists_takeDigits : ∀ s : List Char, ∃ digits : List Char,
    digits.map digitValue? = (takeDigits s).1.map some ∧ s = digits ++ (takeDigits s).2
  | [] => ⟨[], rfl, rfl⟩
  | c :: rest => by
    obtain ⟨digits, same, split⟩ := exists_takeDigits rest
    rw [takeDigits]
    cases value : digitValue? c with
    | none => exact ⟨[], rfl, rfl⟩
    | some d => exact ⟨c :: digits, by simp [value, same], by simp [← split]⟩

/-- A spelling of a numeral begins with a minus sign or a digit. -/
theorem Spells.exists_cons {n : Numeral} {s : List Char} (spells : n.Spells s) :
    ∃ c rest, s = c :: rest ∧ (c = '-' ∨ isDecimal c = true) := by
  obtain ⟨_ | ⟨c, digits⟩, nonempty, same, rfl⟩ := spells
  · exact absurd rfl nonempty
  · cases n.negative with
    | true => exact ⟨'-', c :: digits, rfl, .inl rfl⟩
    | false =>
      refine ⟨c, digits, rfl, .inr ?_⟩
      rcases values : n.digits with _ | ⟨d, more⟩ <;> simp_all [isDecimal]

theorem Spells.opening_not_mem {n : Numeral} {s : List Char} (spells : n.Spells s) : '[' ∉ s := by
  obtain ⟨digits, -, same, rfl⟩ := spells
  have noDigit : '[' ∉ digits := by
    intro member
    have value := List.mem_map_of_mem (f := digitValue?) member
    rw [same, show digitValue? '[' = none by decide] at value
    simp at value
  cases n.negative <;> simp [noDigit]

theorem unsigned?_eq_some_iff {negative : Bool} {s rest : List Char} {n : Numeral} :
    unsigned? negative s = some (n, rest) ↔
      takeDigits s = (n.digits, rest) ∧ n.digits ≠ [] ∧ n.negative = negative := by
  obtain ⟨sign, values⟩ := n
  rw [unsigned?]
  rcases takeDigits s with ⟨_ | ⟨d, ds⟩, more⟩
  · simp only [reduceCtorEq, Prod.mk.injEq, false_iff]
    rintro ⟨⟨rfl, -⟩, nonempty, -⟩
    exact nonempty rfl
  · simp only [Option.some.injEq, Prod.mk.injEq, mk.injEq]
    constructor
    · rintro ⟨⟨rfl, rfl⟩, rfl⟩
      exact ⟨⟨rfl, rfl⟩, List.cons_ne_nil _ _, rfl⟩
    · rintro ⟨⟨rfl, rfl⟩, -, rfl⟩
      exact ⟨⟨rfl, rfl⟩, rfl⟩

end Numeral

namespace Literal

/-- **A numeral is read to its end.** -/
theorem number?_append {n : Numeral} {s rest : List Char} (spells : n.Spells s)
    (stops : StartsWithout isDecimal rest) : number? (s ++ rest) = some (n, rest) := by
  obtain ⟨digits, nonempty, same, rfl⟩ := spells
  have taken := Numeral.takeDigits_append stops same
  have values : n.digits ≠ [] := by
    rintro none
    rw [none] at same
    exact nonempty (List.map_eq_nil_iff.mp same)
  cases sign : n.negative with
  | true => exact Numeral.unsigned?_eq_some_iff.mpr ⟨taken, values, sign⟩
  | false =>
    rw [if_neg Bool.false_ne_true, number?]
    · exact Numeral.unsigned?_eq_some_iff.mpr ⟨taken, values, sign⟩
    · -- The first digit is no minus sign.
      rintro more isMinus
      rcases digits with _ | ⟨c, digits⟩
      · exact nonempty rfl
      · obtain rfl : c = '-' := (List.cons.inj isMinus).1
        rcases known : n.digits with _ | ⟨d, ds⟩
        · exact values known
        · rw [known] at same
          exact absurd (List.cons.inj same).1 (by rw [show digitValue? '-' = none by decide]; nofun)

theorem exists_of_unsigned? {negative : Bool} {s rest : List Char} {n : Numeral}
    (read : Numeral.unsigned? negative s = some (n, rest)) :
    ∃ digits : List Char, digits ≠ [] ∧ digits.map digitValue? = n.digits.map some ∧
      n.negative = negative ∧ s = digits ++ rest := by
  obtain ⟨taken, values, sign⟩ := Numeral.unsigned?_eq_some_iff.mp read
  obtain ⟨digits, same, split⟩ := Numeral.exists_takeDigits s
  rw [taken] at same split
  refine ⟨digits, ?_, same, sign, split⟩
  rintro rfl
  exact values (by simpa using same.symm)

/-- What is read as a numeral spells it. -/
theorem exists_of_number? {s rest : List Char} {n : Numeral} (read : number? s = some (n, rest)) :
    ∃ written, n.Spells written ∧ s = written ++ rest := by
  unfold number? at read
  split at read
  · obtain ⟨digits, nonempty, same, sign, rfl⟩ := exists_of_unsigned? read
    exact ⟨'-' :: digits, ⟨digits, nonempty, same, by rw [if_pos sign]⟩, rfl⟩
  · obtain ⟨digits, nonempty, same, sign, rfl⟩ := exists_of_unsigned? read
    exact ⟨digits, ⟨digits, nonempty, same, by rw [if_neg (by rw [sign]; exact nofun)]⟩, rfl⟩

/-! ## Literals -/

/-- **How a literal is spelled**: two numerals between brackets, with a comma between them and
blanks around them. -/
def Spells (x y : Numeral) (s : List Char) : Prop :=
  ∃ w₁ m w₂ w₃ n w₄ : List Char,
    s = '[' :: w₁ ++ m ++ w₂ ++ ',' :: w₃ ++ n ++ w₄ ++ [']'] ∧ x.Spells m ∧ y.Spells n ∧
      allBlank w₁ = true ∧ allBlank w₂ = true ∧ allBlank w₃ = true ∧ allBlank w₄ = true

theorem trimLeft_append {w rest : List Char} (blank : allBlank w = true)
    (stops : StartsWithout isBlank rest) : trimLeft (w ++ rest) = rest :=
  dropWhile_append (List.all_eq_true.mp blank) stops

theorem exists_trimLeft (s : List Char) : ∃ w, allBlank w = true ∧ s = w ++ trimLeft s :=
  ⟨s.takeWhile isBlank, List.all_takeWhile, (List.takeWhile_append_dropWhile).symm⟩

/-- No numeral begins with a blank. -/
theorem startsWithout_isBlank_append {n : Numeral} {s : List Char} (spells : n.Spells s)
    (rest : List Char) : StartsWithout isBlank (s ++ rest) := by
  obtain ⟨c, more, rfl, rfl | digit⟩ := spells.exists_cons
  · exact startsWithout_cons.mpr (by decide)
  · exact startsWithout_cons.mpr (isBlank_of_isDecimal digit)

/-- No blank and no mark after it goes on with a numeral. -/
theorem startsWithout_isDecimal_append {w : List Char} {c : Char} (rest : List Char)
    (blank : allBlank w = true) (mark : isDecimal c = false) :
    StartsWithout isDecimal (w ++ c :: rest) := by
  rcases w with _ | ⟨d, w⟩
  · exact startsWithout_cons.mpr mark
  · have blank := List.all_eq_true.mp blank d List.mem_cons_self
    refine startsWithout_cons.mpr (Bool.eq_false_iff.mpr fun digit => ?_)
    exact absurd ((isBlank_of_isDecimal digit).symm.trans blank) nofun

/-- **A literal at the front of a text is read.** -/
theorem read?_of_spells {x y : Numeral} {s : List Char} (spells : Spells x y s)
    (rest : List Char) : read? (s ++ rest) = some (⟨s, x, y⟩, rest) := by
  obtain ⟨w₁, m, w₂, w₃, n, w₄, rfl, hm, hn, h₁, h₂, h₃, h₄⟩ := spells
  have xRead : number? (trimLeft (w₁ ++ m ++ w₂ ++ ',' :: w₃ ++ n ++ w₄ ++ ']' :: rest)) =
      some (x, w₂ ++ ',' :: w₃ ++ n ++ w₄ ++ ']' :: rest) := by
    simp only [List.append_assoc, List.cons_append]
    rw [trimLeft_append h₁ (startsWithout_isBlank_append hm _),
      number?_append hm (startsWithout_isDecimal_append _ h₂ (by decide))]
  have comma : trimLeft (w₂ ++ ',' :: w₃ ++ n ++ w₄ ++ ']' :: rest) =
      ',' :: (w₃ ++ n ++ w₄ ++ ']' :: rest) := by
    simp only [List.append_assoc, List.cons_append]
    exact trimLeft_append h₂ (startsWithout_cons.mpr (by decide))
  have yRead : number? (trimLeft (w₃ ++ n ++ w₄ ++ ']' :: rest)) =
      some (y, w₄ ++ ']' :: rest) := by
    simp only [List.append_assoc]
    rw [trimLeft_append h₃ (startsWithout_isBlank_append hn _),
      number?_append hn (startsWithout_isDecimal_append _ h₄ (by decide))]
  have closing : trimLeft (w₄ ++ ']' :: rest) = ']' :: rest :=
    trimLeft_append h₄ (startsWithout_cons.mpr (by decide))
  have cut : ∀ s : List Char, (s ++ rest).take ((s ++ rest).length - rest.length) = s := by simp
  have cut := cut ('[' :: w₁ ++ m ++ w₂ ++ ',' :: w₃ ++ n ++ w₄ ++ [']'])
  simp only [List.append_assoc, List.cons_append, List.nil_append]
    at xRead comma yRead closing cut ⊢
  simp only [read?, skip?, ↓reduceIte, Option.bind_eq_bind, Option.bind_some, Option.pure_def,
    xRead, comma, yRead, closing, cut]

/-- **What is read is a literal.** -/
theorem spells_of_read? {s rest : List Char} {literal : Literal}
    (read : read? s = some (literal, rest)) :
    Spells literal.x literal.y literal.written ∧ s = literal.written ++ rest := by
  have split := read?_append read
  simp only [read?, Option.bind_eq_bind, Option.bind_eq_some_iff, Option.pure_def,
    Option.some.injEq, Prod.exists, Prod.mk.injEq, skip?_eq_some_iff] at read
  obtain ⟨a, rfl, x, b, hx, c, hc, y, d, hy, e, he, rfl, rfl⟩ := read
  obtain ⟨m, hm, ha⟩ := exists_of_number? hx
  obtain ⟨n, hn, hb⟩ := exists_of_number? hy
  obtain ⟨w₁, h₁, ea⟩ := exists_trimLeft a
  obtain ⟨w₂, h₂, eb⟩ := exists_trimLeft b
  obtain ⟨w₃, h₃, ec⟩ := exists_trimLeft c
  obtain ⟨w₄, h₄, ed⟩ := exists_trimLeft d
  refine ⟨⟨w₁, m, w₂, w₃, n, w₄, ?_, hm, hn, h₁, h₂, h₃, h₄⟩, split.symm⟩
  refine List.append_cancel_right (split.trans ?_)
  rw [ea, ha, eb, hc, ec, hb, ed, he]
  simp

/-- A literal stands at the front of the text. -/
def Begins (s : List Char) : Prop :=
  ∃ x y written, Spells x y written ∧ written <+: s

theorem begins_iff {s : List Char} : Begins s ↔ ∃ literal rest, read? s = some (literal, rest) := by
  constructor
  · rintro ⟨x, y, written, spells, rest, rfl⟩
    exact ⟨_, _, read?_of_spells spells rest⟩
  · rintro ⟨literal, rest, read⟩
    obtain ⟨spells, split⟩ := spells_of_read? read
    exact ⟨_, _, _, spells, rest, split.symm⟩

theorem Begins.mono {s t : List Char} (begins : Begins s) (front : s <+: t) : Begins t := by
  obtain ⟨x, y, written, spells, atFront⟩ := begins
  exact ⟨x, y, written, spells, atFront.trans front⟩

/-- **At most one literal stands at the front of a text.** -/
theorem Spells.unique {x y x' y' : Numeral} {s s' text : List Char} (spells : Spells x y s)
    (spells' : Spells x' y' s') (front : s <+: text) (front' : s' <+: text) :
    s = s' ∧ x = x' ∧ y = y' := by
  obtain ⟨rest, rfl⟩ := front
  obtain ⟨rest', split⟩ := front'
  have same := read?_of_spells spells' rest'
  rw [split, read?_of_spells spells rest] at same
  simp only [Option.some.injEq, Prod.mk.injEq, mk.injEq] at same
  exact same.1

/-- A literal opens once. -/
theorem Spells.exists_cons {x y : Numeral} {s : List Char} (spells : Spells x y s) :
    ∃ inside, s = '[' :: inside ∧ '[' ∉ inside := by
  obtain ⟨w₁, m, w₂, w₃, n, w₄, rfl, hm, hn, h₁, h₂, h₃, h₄⟩ := spells
  have noBlank : ∀ {w : List Char}, allBlank w = true → '[' ∉ w := fun blank member =>
    absurd (List.all_eq_true.mp blank _ member) (by decide)
  exact ⟨_, rfl, by simp [noBlank h₁, noBlank h₂, noBlank h₃, noBlank h₄, hm.opening_not_mem,
    hn.opening_not_mem]⟩

theorem not_begins_nil : ¬Begins [] := by
  rintro ⟨x, y, written, spells, front⟩
  obtain ⟨inside, rfl, -⟩ := spells.exists_cons
  simp at front

/-- **The text is a literal with these numbers**, neither of which has too many digits. -/
def Writes (x y : Int) (s : List Char) : Prop :=
  ∃ m n : Numeral, Spells m n s ∧ m.digits.length ≤ Numeral.maxDigits ∧
    n.digits.length ≤ Numeral.maxDigits ∧ m.toInt = x ∧ n.toInt = y

theorem value?_eq_some_iff {literal : Literal} {x y : Int} : literal.value? = some (x, y) ↔
    literal.x.digits.length ≤ Numeral.maxDigits ∧ literal.y.digits.length ≤ Numeral.maxDigits ∧
      literal.x.toInt = x ∧ literal.y.toInt = y := by
  rw [value?, Numeral.value?, Numeral.value?]
  by_cases first : literal.x.digits.length ≤ Numeral.maxDigits <;>
    by_cases second : literal.y.digits.length ≤ Numeral.maxDigits <;> simp [first, second]

end Literal

end GuideMarkup
