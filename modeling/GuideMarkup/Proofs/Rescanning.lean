import GuideMarkup.Proofs.Scanning
import Mathlib.Algebra.Ring.Nat

/-!
# Proofs/Rescanning — a text is cut alike when its coordinates are written anew

    at [ 01 ,-٢ ] (x)!    ──split──▸   pieces
                                          │ write
    at [1,-2] (x)!        ──split──▸   the same pieces

Writing a coordinate as it is copied drops blanks, leading zeros and other scripts.  That moves no
boundary of a cut: a literal opens with the only bracket in it, so none begins in a lead and goes on
into what follows it (`Literal.begins_append_opening`), and what stops a tail stays in front.  A
literal without a value stays as it is.  Since a text has one cut only (`Cut.scan_eq`), scanning
finds the new one.
-/

namespace GuideMarkup

/-! ## Integers as numerals -/

namespace Numeral

theorem digitValue?_of_isDigit {c : Char} (digit : c.isDigit = true) :
    digitValue? c = some (c.toNat - '0'.toNat) := by
  obtain ⟨first, last⟩ := Char.isDigit_iff_toNat.mp digit
  have inScript : (0x30 ≤ c.toNat && c.toNat < 0x30 + 10) = true := by
    rw [show '0'.toNat = 0x30 from rfl] at first
    rw [show '9'.toNat = 0x39 from rfl] at last
    simp only [Bool.and_eq_true, decide_eq_true_eq]
    omega
  have script : digitZeros.find? (fun z => z ≤ c.toNat && c.toNat < z + 10) = some 0x30 :=
    List.find?_cons_of_pos inScript
  rw [digitValue?, script]
  rfl

/-- The numeral with which an integer is written. -/
def ofInt (n : Int) : Numeral :=
  ⟨decide (n < 0), (Nat.toDigits 10 n.natAbs).map fun c => c.toNat - '0'.toNat⟩

theorem spells_ofInt (n : Int) : (ofInt n).Spells (toString n).toList := by
  refine ⟨Nat.toDigits 10 n.natAbs, Nat.toDigits_ne_nil, ?_, ?_⟩
  · rw [ofInt, List.map_map]
    refine List.map_congr_left fun c member => digitValue?_of_isDigit ?_
    exact Nat.isDigit_of_mem_toDigits (by decide) (by decide) member
  · simp only [ofInt, decide_eq_true_eq, toList_toString]

theorem toInt_ofInt (n : Int) : (ofInt n).toInt = n := by
  have magnitude : magnitude (ofInt n).digits = n.natAbs := by
    rw [Numeral.magnitude, ofInt, List.foldl_map]
    exact Nat.ofDigitChars_ten_toDigits
  rw [toInt, magnitude, ofInt]
  by_cases negative : n < 0
  · rw [decide_eq_true negative, if_pos rfl]
    omega
  · rw [decide_eq_false negative, if_neg Bool.false_ne_true]
    omega

theorem magnitude_lt {digits : List Nat} (small : ∀ d ∈ digits, d < 10) :
    magnitude digits < 10 ^ digits.length := by
  induction digits using List.reverseRecOn with
  | nil => decide
  | append_singleton digits d ih =>
    have last : d < 10 := small d (by simp)
    have others := ih fun d member => small d (List.mem_append_left _ member)
    rw [magnitude, List.foldl_concat, ← magnitude, List.length_append, List.length_singleton,
      Nat.pow_succ]
    omega

theorem Spells.digits_lt {n : Numeral} {s : List Char} (spells : n.Spells s) :
    ∀ d ∈ n.digits, d < 10 := by
  obtain ⟨digits, -, same, -⟩ := spells
  intro d member
  have value : some d ∈ digits.map digitValue? := same ▸ List.mem_map_of_mem member
  obtain ⟨c, -, value⟩ := List.mem_map.mp value
  exact digitValue?_lt value

/-- **An integer is written with as few digits as it can be.** -/
theorem Spells.length_ofInt_le {n : Numeral} {s : List Char} (spells : n.Spells s) :
    (ofInt n.toInt).digits.length ≤ n.digits.length := by
  have nonempty : 0 < n.digits.length := by
    obtain ⟨digits, nonempty, same, -⟩ := spells
    have lengths := congrArg List.length same
    simp only [List.length_map] at lengths
    exact lengths ▸ List.length_pos_of_ne_nil nonempty
  have size : n.toInt.natAbs = magnitude n.digits := by
    rw [toInt]
    split <;> simp
  rw [ofInt, List.length_map, Nat.length_toDigits_le_iff (by decide) nonempty, size]
  exact magnitude_lt spells.digits_lt

end Numeral

/-! ## Literals written anew -/

namespace Literal

/-- The literal that a coordinate is copied as. -/
def copied (x y : Int) : Literal :=
  ⟨(copyText x y false).toList, .ofInt x, .ofInt y⟩

theorem spells_copied (x y : Int) :
    Spells (copied x y).x (copied x y).y (copied x y).written := by
  refine ⟨[], (toString x).toList, [], [], (toString y).toList, [], ?_, Numeral.spells_ofInt x,
    Numeral.spells_ofInt y, rfl, rfl, rfl, rfl⟩
  simp [copied, copyText, String.toList_append]

/-- **A literal that begins in front of an opening bracket ends there, too.** -/
theorem begins_append_opening {s t : List Char} (nonempty : s ≠ []) :
    Begins (s ++ '[' :: t) ↔ Begins s := by
  refine ⟨?_, fun begins => begins.mono (List.prefix_append _ _)⟩
  rintro ⟨x, y, written, spells, rest, split⟩
  obtain ⟨inside, rfl, closed⟩ := spells.exists_cons
  obtain ⟨more, front, -⟩ | ⟨beyond, same, opening⟩ := List.append_eq_append_iff.mp split
  · exact ⟨x, y, _, spells, more, front.symm⟩
  · obtain ⟨c, s, rfl⟩ := List.exists_cons_of_ne_nil nonempty
    obtain ⟨-, rfl⟩ := List.cons.inj same
    rcases beyond with _ | ⟨d, beyond⟩
    · exact ⟨x, y, _, spells, by rw [same, List.append_nil]⟩
    · -- The literal would go on over the bracket, but it opens once.
      obtain rfl := (List.cons.inj opening).1
      simp at closed

theorem noneBefore_iff_hasNoLiteral {lead t : List Char} :
    (∀ i < lead.length, ¬Begins ((lead ++ '[' :: t).drop i)) ↔ HasNoLiteral lead := by
  have same : ∀ i < lead.length,
      (Begins ((lead ++ '[' :: t).drop i) ↔ Begins (lead.drop i)) := by
    intro i inLead
    rw [List.drop_append_of_le_length inLead.le]
    exact begins_append_opening (mt List.drop_eq_nil_iff.mp (Nat.not_le_of_lt inLead))
  constructor
  · intro none i begins
    rcases Nat.lt_or_ge i lead.length with inLead | behind
    · exact none i inLead ((same i inLead).mpr begins)
    · rw [List.drop_eq_nil_of_le behind] at begins
      exact not_begins_nil begins
  · exact fun none i inLead begins => none i ((same i inLead).mp begins)

end Literal

/-! ## A text has one cut -/

theorem firstLiteral?_of_hasNoLiteral {s : List Char} (clear : HasNoLiteral s) :
    firstLiteral? s = none := by
  cases found : firstLiteral? s with
  | none => rfl
  | some first =>
    obtain ⟨lead, literal, after⟩ := first
    obtain ⟨spells, split, -⟩ := firstLiteral?_eq_some found
    refine absurd ⟨_, _, _, spells, ?_⟩ (clear lead.length)
    rw [split, List.append_assoc, List.drop_left]
    exact List.prefix_append _ _

/-- The first literal is found where it stands. -/
theorem firstLiteral?_append_of_spells {literal : Literal} {after : List Char}
    (spells : Literal.Spells literal.x literal.y literal.written) :
    ∀ {lead : List Char},
      (∀ i < lead.length, ¬Literal.Begins ((lead ++ (literal.written ++ after)).drop i)) →
      firstLiteral? (lead ++ (literal.written ++ after)) = some (lead, literal, after)
  | [], _ => by
    obtain ⟨inside, opening, -⟩ := spells.exists_cons
    have read := Literal.read?_of_spells spells after
    rw [List.nil_append]
    rw [opening, List.cons_append] at read ⊢
    rw [firstLiteral?, read, ← opening]
  | c :: lead, clear => by
    have unread : Literal.read? (c :: (lead ++ (literal.written ++ after))) = none := by
      refine Option.eq_none_iff_forall_ne_some.mpr fun found read => ?_
      exact clear 0 (Nat.succ_pos _) (Literal.begins_iff.mpr ⟨found.1, found.2, read⟩)
    have rest := @firstLiteral?_append_of_spells literal after spells lead
      fun i inLead => clear (i + 1) (Nat.succ_lt_succ inLead)
    rw [List.cons_append, firstLiteral?, unread, rest]
    rfl

theorem scan_of_firstLiteral? {s lead after : List Char} {literal : Literal}
    (found : firstLiteral? s = some (lead, literal, after)) :
    scan s = (⟨lead, literal, after.takeWhile isTailChar⟩ ::
      (scan (after.dropWhile isTailChar)).1, (scan (after.dropWhile isTailChar)).2) := by
  rw [scan]
  split
  · rename_i clear
    cases found.symm.trans clear
  · rename_i found'
    obtain ⟨rfl, rfl, rfl⟩ := by simpa using found.symm.trans found'
    rfl

/-- **A text has one cut**, and scanning finds it. -/
theorem Cut.scan_eq {s rest : List Char} {founds : List Found} (cut : Cut s founds rest) :
    scan s = (founds, rest) := by
  induction cut with
  | done clear =>
    rw [scan]
    split
    · rfl
    · rename_i found
      rw [firstLiteral?_of_hasNoLiteral clear] at found
      cases found
  | @next found after rest more spells lead tail stops cut ih =>
    have split : found.written ++ after =
        found.lead ++ (found.literal.written ++ (found.tail ++ after)) := by
      simp [Found.written]
    rw [split] at lead ⊢
    rw [scan_of_firstLiteral? (firstLiteral?_append_of_spells spells lead),
      dropWhile_append tail stops, takeWhile_append tail stops, ih]

/-! ## Finds written anew -/

namespace Found

variable {found : Found} {coordinate : Coordinate}

/-- The find with its literal as it is copied; one without a value stays as it is. -/
def rewritten (found : Found) : Found :=
  match found.coordinate? with
  | some coordinate => { found with literal := .copied coordinate.x coordinate.y }
  | none => found

theorem rewritten_of_some (made : found.coordinate? = some coordinate) :
    found.rewritten = { found with literal := .copied coordinate.x coordinate.y } := by
  rw [rewritten, made]

theorem rewritten_of_none (unmade : found.coordinate? = none) : found.rewritten = found := by
  rw [rewritten, unmade]

theorem lead_rewritten (found : Found) : found.rewritten.lead = found.lead := by
  rw [rewritten]
  split <;> rfl

theorem tail_rewritten (found : Found) : found.rewritten.tail = found.tail := by
  rw [rewritten]
  split <;> rfl

variable (spells : Literal.Spells found.literal.x found.literal.y found.literal.written)

include spells

theorem spells_rewritten : Literal.Spells found.rewritten.literal.x found.rewritten.literal.y
    found.rewritten.literal.written := by
  rw [rewritten]
  split
  · exact Literal.spells_copied _ _
  · exact spells

/-- **A find that is written anew stands for the same coordinate.** -/
theorem coordinate?_rewritten : found.rewritten.coordinate? = found.coordinate? := by
  cases made : found.coordinate? with
  | none => rw [rewritten_of_none made, made]
  | some coordinate =>
    obtain ⟨value, lead, tail⟩ := coordinate?_eq_some_iff.mp made
    obtain ⟨hx, hy, x, y⟩ := Literal.value?_eq_some_iff.mp value
    obtain ⟨_, m, _, _, n, _, -, spellsX, spellsY, -⟩ := spells
    rw [rewritten_of_some made, coordinate?_eq_some_iff, Literal.value?_eq_some_iff]
    refine ⟨⟨?_, ?_, Numeral.toInt_ofInt _, Numeral.toInt_ofInt _⟩, lead, tail⟩
    · exact x ▸ spellsX.length_ofInt_le.trans hx
    · exact y ▸ spellsY.length_ofInt_le.trans hy

end Found

namespace Cut

variable {s rest : List Char} {founds : List Found}

/-- Writing the finds anew does not change with which character the text begins. -/
theorem head?_rewritten (cut : Cut s founds rest) :
    ((founds.map Found.rewritten).flatMap Found.written ++ rest).head? = s.head? := by
  cases cut with
  | done none => rfl
  | @next found after rest more spells lead tail stops cut =>
    obtain ⟨inside, opening, -⟩ := spells.exists_cons
    obtain ⟨inside', opening', -⟩ := (Found.spells_rewritten spells).exists_cons
    simp [Found.written, Found.lead_rewritten, opening, opening', List.head?_append]

/-- **The finds written anew are a cut of the text that they make up.** -/
theorem rewritten (cut : Cut s founds rest) :
    Cut ((founds.map Found.rewritten).flatMap Found.written ++ rest)
      (founds.map Found.rewritten) rest := by
  induction cut with
  | done clear => exact .done clear
  | @next found after rest more spells lead tail stops cut ih =>
    have spells' := Found.spells_rewritten spells
    rw [List.map_cons, List.flatMap_cons, List.append_assoc]
    refine .next spells' ?_ (by rwa [Found.tail_rewritten]) ?_ ih
    · -- No literal is in the lead, which is the same.
      obtain ⟨inside, opening, -⟩ := spells.exists_cons
      obtain ⟨inside', opening', -⟩ := spells'.exists_cons
      simp only [Found.written, opening, List.append_assoc, List.cons_append] at lead
      simp only [Found.written, opening', Found.lead_rewritten, List.append_assoc,
        List.cons_append]
      exact Literal.noneBefore_iff_hasNoLiteral.mpr (Literal.noneBefore_iff_hasNoLiteral.mp lead)
    · intro c first
      exact stops c (cut.head?_rewritten ▸ first)

end Cut

/-! ## Pieces -/

/-- The text of a coordinate with its literal as it is copied. -/
def Coordinate.written (found : Coordinate) : List Char :=
  found.lead ++ (copyText found.x found.y false).toList ++ found.tail

/-- The text of a piece. -/
def Piece.written : Piece → List Char
  | .plain text => text
  | .coordinate found => found.written

theorem Found.written_rewritten {found : Found} {coordinate : Coordinate}
    (made : found.coordinate? = some coordinate) :
    found.rewritten.written = coordinate.written := by
  obtain ⟨-, lead, tail⟩ := coordinate?_eq_some_iff.mp made
  rw [rewritten_of_some made, Found.written, Coordinate.written, lead, tail]
  rfl

theorem flatMap_written_plainPiece (text : List Char) :
    (plainPiece text).flatMap Piece.written = text := by
  rw [plainPiece]
  split
  · rename_i empty
    exact (List.isEmpty_iff.mp empty).symm
  · exact List.append_nil text

/-- **What the pieces write** is what the finds write anew. -/
theorem flatMap_written_piecesOf (pending : List Char) (founds : List Found) (rest : List Char) :
    (piecesOf pending founds rest).flatMap Piece.written =
      pending ++ ((founds.map Found.rewritten).flatMap Found.written ++ rest) := by
  induction founds generalizing pending with
  | nil => rw [piecesOf, flatMap_written_plainPiece]; rfl
  | cons found more ih =>
    rw [piecesOf, List.map_cons, List.flatMap_cons]
    split
    · rename_i coordinate made
      rw [List.flatMap_append, List.flatMap_cons, flatMap_written_plainPiece, ih,
        Found.written_rewritten made, List.nil_append, List.append_assoc]
      rfl
    · rename_i unmade
      rw [ih, Found.rewritten_of_none unmade, List.append_assoc, List.append_assoc]

/-- The finds written anew make the same pieces. -/
theorem piecesOf_rewritten (pending : List Char) {founds : List Found} (rest : List Char)
    (spells : ∀ found ∈ founds,
      Literal.Spells found.literal.x found.literal.y found.literal.written) :
    piecesOf pending (founds.map Found.rewritten) rest = piecesOf pending founds rest := by
  induction founds generalizing pending with
  | nil => rfl
  | cons found more ih =>
    obtain ⟨here, there⟩ := List.forall_mem_cons.mp spells
    rw [List.map_cons, piecesOf, piecesOf, Found.coordinate?_rewritten here]
    split
    · rw [ih [] there]
    · rename_i unmade
      rw [Found.rewritten_of_none unmade, ih _ there]

/-- **Writing the coordinates of a text anew changes nothing about its pieces.**  The text that the
pieces make up, each coordinate with its literal as it is copied, is cut into the same pieces. -/
theorem split?_flatMap_written {text : List Char} {pieces : List Piece}
    (found : split? text = some pieces) : split? (pieces.flatMap Piece.written) = some pieces := by
  have cut := cut_scan text
  rw [split?] at found
  split at found
  · cases found
  · rename_i nonempty
    obtain rfl := Option.some.inj found
    have scanned := cut.rewritten.scan_eq
    have same : ((scan text).1.map Found.rewritten).filterMap Found.coordinate? =
        coordinates text := by
      rw [coordinates, List.filterMap_map]
      exact List.filterMap_congr fun found member =>
        Found.coordinate?_rewritten (cut.spells found member)
    rw [flatMap_written_piecesOf, List.nil_append, split?, coordinates, scanned, same,
      if_neg nonempty, piecesOf_rewritten [] _ cut.spells]

/-! ### Coordinates in two scripts, with a bracket in a lead -/

/-- A text with two coordinates, neither of which is written as it is copied. -/
def sparseText : String := "at [ -٠٣ ,\n4 ] (x)! [1,[-0, 007]."

/-- Its pieces. -/
def sparsePieces : List Piece :=
  [.coordinate ⟨"at ".toList, -3, 4, " (x)".toList⟩, .coordinate ⟨"! [1,".toList, 0, 7, ".".toList⟩]

/-- The text written anew is shorter, and is cut into the same pieces. -/
theorem split?_flatMap_written_sparseText :
    split? sparseText.toList = some sparsePieces ∧
      sparsePieces.flatMap Piece.written = "at [-3,4] (x)! [1,[0,7].".toList ∧
      split? (sparsePieces.flatMap Piece.written) = some sparsePieces := by
  have pieces : split? sparseText.toList = some sparsePieces := by decide +kernel
  exact ⟨pieces, by decide +kernel, split?_flatMap_written pieces⟩

end GuideMarkup
