import GuideMarkup.Proofs.Rescanning
import Mathlib.Data.Nat.Digits.Defs

/-!
# Proofs/LeadingIntegers — which integer a text starts with

    blanks  sign  digits  rest          " -٤2०px"   is   -420

`Opening` is the grammar of texts that start with an integer; it knows nothing of reading.  No blank
is a sign or a digit, and the digits end where no digit follows, so the reader has no choice: it
finds the number of an opening in base ten, whatever the scripts of the digits, unless there are too
many of them; and no number where there is no opening.
-/

namespace GuideMarkup

/-! ## Openings -/

/-- How a number says that it is negative, or that it is not. -/
inductive Sign where
  | unwritten
  | plus
  | minus
deriving DecidableEq, Repr

namespace Sign

/-- The sign in front of the digits. -/
def written : Sign → List Char
  | unwritten => []
  | plus => ['+']
  | minus => ['-']

/-- The number with this sign. -/
def apply (sign : Sign) (n : Nat) : Int :=
  if sign = minus then -(n : Int) else n

end Sign

/-- **A text that starts with an integer**: blanks, a sign, digits of any script, and a rest that
does not go on with a digit. -/
structure Opening where
  blanks : List Char
  sign : Sign
  digits : List Char
  rest : List Char
  blank : allBlank blanks = true
  nonempty : digits ≠ []
  decimal : ∀ c ∈ digits, isDecimal c = true
  stops : StartsWithout isDecimal rest

namespace Opening

/-- The text. -/
def text (opening : Opening) : List Char :=
  opening.blanks ++ opening.sign.written ++ opening.digits ++ opening.rest

/-- The values of the digits, most significant digit first. -/
def values (opening : Opening) : List Nat :=
  opening.digits.map fun c => (digitValue? c).getD 0

/-- The number in base ten. -/
def number (opening : Opening) : Int :=
  opening.sign.apply (Nat.ofDigits 10 opening.values.reverse)

/-- The number is read, unless it has more than 4300 digits. -/
def reading (opening : Opening) : Except NumeralError (Option Int) :=
  if opening.digits.length ≤ 4300 then .ok (some opening.number) else .error .tooLong

/-- The numeral at the front of the text. -/
def numeral (opening : Opening) : Numeral :=
  ⟨decide (opening.sign = .minus), opening.values⟩

theorem map_digitValue? (opening : Opening) :
    opening.digits.map digitValue? = opening.values.map some := by
  rw [values, List.map_map]
  refine List.map_congr_left fun c member => ?_
  obtain ⟨d, value⟩ := Option.isSome_iff_exists.mp (opening.decimal c member)
  rw [Function.comp_apply, value, Option.getD_some]

theorem toInt_numeral (opening : Opening) : opening.numeral.toInt = opening.number := by
  have magnitude : Numeral.magnitude opening.values = Nat.ofDigits 10 opening.values.reverse := by
    rw [Nat.ofDigits_eq_foldr, List.foldr_reverse, Numeral.magnitude]
    simp only [Nat.cast_id, Nat.add_comm]
  rw [Numeral.toInt, numeral, magnitude, number, Sign.apply]
  by_cases minus : opening.sign = .minus <;> simp [minus]

theorem value?_numeral (opening : Opening) : opening.numeral.value? =
    if opening.digits.length ≤ 4300 then some opening.number else none := by
  rw [Numeral.value?, toInt_numeral, numeral, values, List.length_map, Numeral.maxDigits]

end Opening

/-! ## Reading -/

namespace Numeral

/-- A text that begins with no sign is read as it is. -/
theorem signed?_of_startsWithout {s : List Char}
    (unsigned : StartsWithout (fun c => c == '-' || c == '+') s) :
    signed? s = unsigned? false s := by
  unfold signed?
  split
  · exact absurd (startsWithout_cons.mp unsigned) (by decide)
  · exact absurd (startsWithout_cons.mp unsigned) (by decide)
  · rfl

theorem signed?_written_append {s : List Char} (sign : Sign)
    (unsigned : StartsWithout (fun c => c == '-' || c == '+') s) :
    signed? (sign.written ++ s) = unsigned? (decide (sign = .minus)) s := by
  cases sign with
  | unwritten => exact signed?_of_startsWithout unsigned
  | plus => rfl
  | minus => rfl

theorem exists_signed?_eq (s : List Char) : ∃ (sign : Sign) (t : List Char),
    s = sign.written ++ t ∧ signed? s = unsigned? (decide (sign = .minus)) t := by
  unfold signed?
  split
  · exact ⟨.minus, _, rfl, rfl⟩
  · exact ⟨.plus, _, rfl, rfl⟩
  · exact ⟨.unwritten, _, rfl, rfl⟩

theorem startsWithout_takeDigits (s : List Char) : StartsWithout isDecimal (takeDigits s).2 := by
  induction s with
  | nil => exact nofun
  | cons c rest ih =>
    rw [takeDigits]
    cases value : digitValue? c with
    | some d => exact ih
    | none => exact startsWithout_cons.mpr (by rw [isDecimal, value, Option.isSome_none])

end Numeral

namespace Opening

theorem exists_digits_eq_cons (opening : Opening) :
    ∃ c more, opening.digits = c :: more ∧ isDecimal c = true := by
  obtain ⟨c, more, found⟩ := List.exists_cons_of_ne_nil opening.nonempty
  exact ⟨c, more, found, opening.decimal c (found ▸ List.mem_cons_self)⟩

/-- No blank follows the blanks. -/
theorem startsWithout_isBlank (opening : Opening) :
    StartsWithout isBlank (opening.sign.written ++ (opening.digits ++ opening.rest)) := by
  obtain ⟨c, more, found, digit⟩ := opening.exists_digits_eq_cons
  rw [found]
  cases opening.sign with
  | unwritten => exact startsWithout_cons.mpr (isBlank_of_isDecimal digit)
  | plus => exact startsWithout_cons.mpr (by decide)
  | minus => exact startsWithout_cons.mpr (by decide)

/-- No second sign follows the sign. -/
theorem startsWithout_sign (opening : Opening) :
    StartsWithout (fun c => c == '-' || c == '+') (opening.digits ++ opening.rest) := by
  obtain ⟨c, more, found, digit⟩ := opening.exists_digits_eq_cons
  rw [found, List.cons_append, startsWithout_cons, Bool.or_eq_false_iff, beq_eq_false_iff_ne,
    beq_eq_false_iff_ne]
  constructor <;> rintro rfl <;> exact absurd digit (by decide)

/-- **The numeral at the front of a text is read to its end.** -/
theorem signed?_trimLeft_text (opening : Opening) :
    Numeral.signed? (trimLeft opening.text) = some (opening.numeral, opening.rest) := by
  have taken := Numeral.takeDigits_append opening.stops opening.map_digitValue?
  have values : opening.values ≠ [] := by simp [values, opening.nonempty]
  rw [text, List.append_assoc, List.append_assoc,
    Literal.trimLeft_append opening.blank opening.startsWithout_isBlank,
    Numeral.signed?_written_append opening.sign opening.startsWithout_sign]
  exact Numeral.unsigned?_eq_some_iff.mpr ⟨taken, values, rfl⟩

/-- Whatever is read stands in an opening. -/
theorem exists_of_signed? {s rest : List Char} {n : Numeral}
    (read : Numeral.signed? (trimLeft s) = some (n, rest)) :
    ∃ opening : Opening, opening.text = s := by
  obtain ⟨blanks, blank, split⟩ := Literal.exists_trimLeft s
  obtain ⟨sign, t, signed, same⟩ := Numeral.exists_signed?_eq (trimLeft s)
  rw [same] at read
  obtain ⟨digits, nonempty, values, -, spelled⟩ := Literal.exists_of_unsigned? read
  have taken := (Numeral.unsigned?_eq_some_iff.mp read).1
  have stops : StartsWithout isDecimal rest := by
    simpa only [taken] using Numeral.startsWithout_takeDigits t
  have decimal : ∀ c ∈ digits, isDecimal c = true := by
    intro c member
    have value := List.mem_map_of_mem (f := digitValue?) member
    rw [values] at value
    obtain ⟨d, -, value⟩ := List.mem_map.mp value
    rw [isDecimal, ← value, Option.isSome_some]
  refine ⟨⟨blanks, sign, digits, rest, blank, nonempty, decimal, stops⟩, ?_⟩
  rw [text, split, signed, spelled]
  simp only [List.append_assoc]

/-- The opening of a text that goes on after an integer as it is commonly written. -/
def ofInt (n : Int) {blanks rest : List Char} (blank : allBlank blanks = true)
    (stops : StartsWithout isDecimal rest) : Opening where
  blanks
  sign := if n < 0 then .minus else .unwritten
  digits := Nat.toDigits 10 n.natAbs
  rest
  blank
  nonempty := Nat.toDigits_ne_nil
  decimal c member := by
    rw [isDecimal, Numeral.digitValue?_of_isDigit, Option.isSome_some]
    exact Nat.isDigit_of_mem_toDigits (by decide) (by decide) member
  stops

section Written

variable {n : Int} {blanks rest : List Char} (blank : allBlank blanks = true)
  (stops : StartsWithout isDecimal rest)

theorem text_ofInt : (ofInt n blank stops).text = blanks ++ (toString n).toList ++ rest := by
  rw [text, toList_toString, ofInt]
  by_cases negative : n < 0 <;> simp [negative, Sign.written]

theorem number_ofInt : (ofInt n blank stops).number = n := by
  have same : (ofInt n blank stops).numeral = Numeral.ofInt n := by
    rw [numeral, Numeral.ofInt, values, ofInt]
    congr 1
    · by_cases negative : n < 0 <;> simp [negative]
    · refine List.map_congr_left fun c member => ?_
      rw [Numeral.digitValue?_of_isDigit, Option.getD_some]
      exact Nat.isDigit_of_mem_toDigits (by decide) (by decide) member
  rw [← toInt_numeral, same, Numeral.toInt_ofInt]

theorem reading_ofInt (short : (toString n.natAbs).length ≤ 4300) :
    (ofInt n blank stops).reading = .ok (some n) := by
  have length : (ofInt n blank stops).digits.length = (toString n.natAbs).length := by
    rw [Nat.toString_eq_ofList_toDigits, String.length_ofList, ofInt]
  rw [reading, if_pos (length ▸ short), number_ofInt]

end Written

end Opening

theorem leadingInt?_of_opening {s : String} {opening : Opening} (opens : opening.text = s.toList) :
    leadingInt? s = opening.reading := by
  simp only [leadingInt?, ← opens, opening.signed?_trimLeft_text, opening.value?_numeral,
    Opening.reading]
  by_cases short : opening.digits.length ≤ 4300
  · rw [if_pos short, if_pos short]
  · rw [if_neg short, if_neg short]

/-- **The integer at the front of a text is read by its grammar.**  If the text is blanks, a sign,
digits and a rest that does not go on with a digit, the number of the digits in base ten is read,
and more than 4300 digits are an error; any other text has no number.  So an integer is read back
wherever it is written with at most 4300 digits and no digit follows. -/
theorem leadingInt?_eq_reading (s : String) :
    (∀ opening : Opening, opening.text = s.toList → leadingInt? s = opening.reading) ∧
      ((¬∃ opening : Opening, opening.text = s.toList) → leadingInt? s = .ok none) ∧
      ∀ (n : Int) (front back : String), (toString n.natAbs).length ≤ 4300 →
        allBlank front.toList = true → StartsWithout isDecimal back.toList →
          s = front ++ toString n ++ back → leadingInt? s = .ok (some n) := by
  refine ⟨fun _ => leadingInt?_of_opening, fun none => ?_, ?_⟩
  · rw [leadingInt?]
    cases read : Numeral.signed? (trimLeft s.toList) with
    | none => rfl
    | some found => exact absurd (Opening.exists_of_signed? read) none
  · rintro n front back short blank stops rfl
    have opens := Opening.text_ofInt (n := n) blank stops
    rw [leadingInt?_of_opening (opens.trans (by simp only [String.toList_append])),
      Opening.reading_ofInt blank stops short]

/-- A number in the digits of three scripts. -/
def Opening.mixedDigits : Opening where
  blanks := ['\u3000', ' ']
  sign := .minus
  digits := ['٤', '2', '०']
  rest := ['p', 'x']
  blank := by decide
  nonempty := by decide
  decimal := List.all_eq_true.mp (by decide)
  stops := by simp [StartsWithout, show isDecimal 'p' = false by decide]

/-- A number with one digit too many. -/
def Opening.endlessZeros : Opening where
  blanks := []
  sign := .plus
  digits := List.replicate 4301 '0'
  rest := []
  blank := rfl
  nonempty := List.ne_nil_of_length_pos (by rw [List.length_replicate]; decide)
  decimal _ member := List.eq_of_mem_replicate member ▸ by decide
  stops := nofun

/-- Digits of three scripts are one number, too many zeros are an error, two signs are no number,
and an integer is read back from between a blank and a letter. -/
theorem leadingInt?_eq_reading_mixedDigits :
    (Opening.mixedDigits.text = "\u3000 -٤2०px".toList ∧
      leadingInt? "\u3000 -٤2०px" = .ok (some (-420))) ∧
    (Opening.endlessZeros.text = (String.ofList Opening.endlessZeros.text).toList ∧
      leadingInt? (String.ofList Opening.endlessZeros.text) = .error .tooLong) ∧
    ((¬∃ opening : Opening, opening.text = "+-3".toList) ∧ leadingInt? "+-3" = .ok none) ∧
    ((toString (-420 : Int).natAbs).length ≤ 4300 ∧ allBlank "\t".toList = true ∧
      StartsWithout isDecimal "px".toList ∧
      leadingInt? ("\t" ++ toString (-420 : Int) ++ "px") = .ok (some (-420))) := by
  have mixed : Opening.mixedDigits.text = "\u3000 -٤2०px".toList := by decide
  have zeros : Opening.endlessZeros.text = (String.ofList Opening.endlessZeros.text).toList :=
    String.toList_ofList.symm
  have tooLong : Opening.endlessZeros.reading = .error .tooLong := by
    rw [Opening.reading, Opening.endlessZeros, List.length_replicate]
    rfl
  have noOpening : ¬∃ opening : Opening, opening.text = "+-3".toList := by
    rintro ⟨opening, opens⟩
    have read := leadingInt?_of_opening opens
    rw [show leadingInt? "+-3" = .ok none by decide, Opening.reading] at read
    split at read <;> simp at read
  have short : (toString (-420 : Int).natAbs).length ≤ 4300 := by decide
  have stops : StartsWithout isDecimal "px".toList := Opening.mixedDigits.stops
  refine ⟨⟨mixed, ?_⟩, ⟨zeros, ?_⟩, ⟨noOpening, (leadingInt?_eq_reading _).2.1 noOpening⟩, short,
    by decide, stops, ?_⟩
  · rw [(leadingInt?_eq_reading _).1 _ mixed]
    decide
  · rw [(leadingInt?_eq_reading _).1 _ zeros, tooLong]
  · exact (leadingInt?_eq_reading _).2.2 (-420) "\t" "px" short (by decide) stops rfl

end GuideMarkup
