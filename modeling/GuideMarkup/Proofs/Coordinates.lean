import GuideMarkup.Proofs.Scanning

/-!
# Proofs/Coordinates — the coordinates of a text are its literals that have a value

    literal at a position        ↦  one coordinate, unless a number has too many digits
    coordinate at a position     ↦  the literal that stands there

A literal opens with the only bracket in it, and no tail holds one, so no find of a scan covers the
beginning of a literal but its own (`Cut.exists_placed`).  The main statement, `coordinates_exact`,
says what the scan and the pieces of a text have to do with the positions of its literals.
-/

namespace GuideMarkup

variable {s rest : List Char} {founds : List Found}

/-! ## Finds in their places -/

/-- The coordinates among the finds, each with the position of its literal, where the finds begin
at `start`. -/
def placed (start : Nat) : List Found → List (Nat × Coordinate)
  | [] => []
  | found :: more =>
    match found.coordinate? with
    | some coordinate =>
      (start + found.lead.length, coordinate) :: placed (start + found.written.length) more
    | none => placed (start + found.written.length) more

theorem map_snd_placed (start : Nat) (founds : List Found) :
    (placed start founds).map Prod.snd = founds.filterMap Found.coordinate? := by
  induction founds generalizing start with
  | nil => rfl
  | cons found more ih =>
    rw [placed]
    split
    · rename_i coordinate made
      rw [List.map_cons, ih, List.filterMap_cons_some made]
    · rename_i unmade
      rw [ih, List.filterMap_cons_none unmade]

theorem placed_eq_nil (start : Nat) (unmade : ∀ found ∈ founds, found.coordinate? = none) :
    placed start founds = [] :=
  List.map_eq_nil_iff.mp ((map_snd_placed start founds).trans
    (List.filterMap_eq_nil_iff.mpr unmade))

theorem le_of_mem_placed {start : Nat} {place : Nat × Coordinate}
    (member : place ∈ placed start founds) : start ≤ place.1 := by
  induction founds generalizing start with
  | nil => exact absurd member List.not_mem_nil
  | cons found more ih =>
    rw [placed] at member
    split at member
    · rcases List.mem_cons.mp member with rfl | member
      · exact Nat.le_add_right _ _
      · exact (Nat.le_add_right _ _).trans (ih member)
    · exact (Nat.le_add_right _ _).trans (ih member)

/-- **How a coordinate stands in a text**: a literal with its numbers is at the position; the lead
goes up to it and holds no literal, and the tail goes on from it as long as it can. -/
structure Coordinate.StandsAt (found : Coordinate) (text : List Char) (i : Nat) : Prop where
  literal : ∃ written, Literal.Writes found.x found.y written ∧ written <+: text.drop i ∧
    found.tail = (text.drop (i + written.length)).takeWhile isTailChar
  lead : found.lead <:+ text.take i
  noLiteral : HasNoLiteral found.lead

/-- The coordinate of a find stands behind the lead of the find. -/
theorem Found.standsAt {found : Found} {coordinate : Coordinate} {after : List Char}
    (spells : Literal.Spells found.literal.x found.literal.y found.literal.written)
    (lead : ∀ i < found.lead.length, ¬Literal.Begins ((found.written ++ after).drop i))
    (tail : ∀ c ∈ found.tail, isTailChar c = true) (stops : StartsWithout isTailChar after)
    (made : found.coordinate? = some coordinate) (before : List Char) :
    coordinate.StandsAt (before ++ (found.written ++ after))
      (before.length + found.lead.length) := by
  obtain ⟨-, hl, ht⟩ := Found.coordinate?_eq_some_iff.mp made
  have split : before ++ (found.written ++ after) =
      (before ++ found.lead) ++ (found.literal.written ++ (found.tail ++ after)) := by
    simp [Found.written]
  rw [← List.length_append, split]
  refine ⟨⟨found.literal.written, Found.writes spells made, ?_, ?_⟩, ?_, fun i begins => ?_⟩
  · rw [List.drop_left]
    exact List.prefix_append _ _
  · rw [← List.drop_drop, List.drop_left, List.drop_left, takeWhile_append tail stops, ht]
  · rw [List.take_left, ← hl]
    exact List.suffix_append _ _
  · rw [← hl] at begins
    rcases Nat.lt_or_ge i found.lead.length with inLead | behind
    · refine lead i inLead (begins.mono (List.IsPrefix.drop ?_ i))
      rw [Found.written, List.append_assoc, List.append_assoc]
      exact List.prefix_append _ _
    · rw [List.drop_eq_nil_of_le behind] at begins
      exact Literal.not_begins_nil begins

namespace Cut

/-- **Every coordinate of a cut stands in the text**, where `before` is in front of what is cut. -/
theorem standsAt_of_mem_placed (cut : Cut s founds rest) (before : List Char) :
    ∀ place ∈ placed before.length founds, place.2.StandsAt (before ++ s) place.1 := by
  induction cut generalizing before with
  | done none => exact fun _ member => absurd member List.not_mem_nil
  | @next found after rest more spells lead tail stops cut ih =>
    have later : ∀ place ∈ placed (before.length + found.written.length) more,
        place.2.StandsAt (before ++ (found.written ++ after)) place.1 := by
      intro place member
      have stands := ih (before ++ found.written) place (by rwa [List.length_append])
      rwa [List.append_assoc] at stands
    intro place member
    rw [placed] at member
    split at member
    · rename_i coordinate made
      rcases List.mem_cons.mp member with rfl | member
      · exact Found.standsAt spells lead tail stops made before
      · exact later _ member
    · exact later _ member

/-- The coordinates of a cut come from left to right. -/
theorem pairwise_placed (cut : Cut s founds rest) (start : Nat) :
    (placed start founds).Pairwise fun p q => p.1 < q.1 := by
  induction cut generalizing start with
  | done none => exact .nil
  | @next found after rest more spells lead tail stops cut ih =>
    rw [placed]
    split
    · refine .cons (fun place member => ?_) (ih _)
      obtain ⟨inside, opening, -⟩ := spells.exists_cons
      have := le_of_mem_placed member
      simp only [Found.written, opening, List.length_append, List.length_cons] at this
      dsimp only
      omega
    · exact ih _

/-- A find opens once, its lead apart. -/
theorem exists_opening {found : Found}
    (spells : Literal.Spells found.literal.x found.literal.y found.literal.written)
    (tail : ∀ c ∈ found.tail, isTailChar c = true) :
    ∃ inside, found.literal.written = '[' :: inside ∧ '[' ∉ inside ++ found.tail := by
  obtain ⟨inside, opening, closed⟩ := spells.exists_cons
  refine ⟨inside, opening, fun member => ?_⟩
  rcases List.mem_append.mp member with member | member
  · exact closed member
  · exact absurd (tail _ member) (by decide +kernel)

/-- A literal that begins behind the lead of a find begins behind all of the find. -/
theorem length_written_le {found : Found} {after : List Char}
    (spells : Literal.Spells found.literal.x found.literal.y found.literal.written)
    (tail : ∀ c ∈ found.tail, isTailChar c = true) {m n : Numeral} {written : List Char}
    (isLiteral : Literal.Spells m n written) {i : Nat} (behind : found.lead.length < i)
    (front : written <+: (found.written ++ after).drop i) : found.written.length ≤ i := by
  obtain ⟨inside, opening, closed⟩ := exists_opening spells tail
  obtain ⟨own, rfl, -⟩ := isLiteral.exists_cons
  obtain ⟨k, rfl⟩ := Nat.exists_eq_add_of_lt behind
  have split : found.written = (found.lead ++ ['[']) ++ (inside ++ found.tail) := by
    simp [Found.written, opening]
  have place : found.lead.length + k + 1 = (found.lead ++ ['[']).length + k := by
    simp
    omega
  rw [place, split, List.length_append]
  refine Nat.add_le_add_left (Nat.le_of_not_lt fun covered => ?_) _
  rw [place, split, List.append_assoc, ← List.drop_drop, List.drop_left,
    List.drop_append_of_le_length covered.le, List.drop_eq_getElem_cons covered] at front
  obtain ⟨others, same⟩ := front
  have isOpening := (List.cons.inj same).1
  exact closed (isOpening ▸ List.getElem_mem covered)

/-- **A cut passes no literal by**: one with a value that begins in the text is among its
coordinates. -/
theorem exists_placed (cut : Cut s founds rest) {x y : Int} {written : List Char}
    (writes : Literal.Writes x y written) (start : Nat) {i : Nat} (front : written <+: s.drop i) :
    ∃ found, (start + i, found) ∈ placed start founds ∧ found.x = x ∧ found.y = y := by
  obtain ⟨m, n, isLiteral, hm, hn, rfl, rfl⟩ := writes
  induction cut generalizing start i with
  | done none => exact absurd ⟨m, n, written, isLiteral, front⟩ (none i)
  | @next found after rest more spells lead tail stops cut ih =>
    rcases Nat.lt_trichotomy i found.lead.length with inLead | rfl | behind
    · exact absurd ⟨m, n, written, isLiteral, front⟩ (lead i inLead)
    · -- The literal is the one that was found.
      rw [Found.written, List.append_assoc, List.append_assoc, List.drop_left] at front
      obtain ⟨-, rfl, rfl⟩ := isLiteral.unique spells front (List.prefix_append _ _)
      have made : found.coordinate? =
          some ⟨found.lead, found.literal.x.toInt, found.literal.y.toInt, found.tail⟩ :=
        Found.coordinate?_eq_some_iff.mpr
          ⟨Literal.value?_eq_some_iff.mpr ⟨hm, hn, rfl, rfl⟩, rfl, rfl⟩
      rw [placed, made]
      exact ⟨_, List.mem_cons_self, rfl, rfl⟩
    · obtain ⟨j, rfl⟩ :=
        Nat.exists_eq_add_of_le (length_written_le spells tail isLiteral behind front)
      rw [← List.drop_drop, List.drop_left] at front
      obtain ⟨coordinate, member, same⟩ := ih (start + found.written.length) front
      refine ⟨coordinate, ?_, same⟩
      rw [Nat.add_assoc] at member
      rw [placed]
      split
      · exact List.mem_cons_of_mem _ member
      · exact member

end Cut

/-! ## Pieces -/

/-- The coordinate that a piece is, if it is one. -/
def Piece.coordinate? : Piece → Option Coordinate
  | .plain _ => none
  | .coordinate found => some found

theorem filterMap_plainPiece (text : List Char) :
    (plainPiece text).filterMap Piece.coordinate? = [] := by
  rw [plainPiece]
  split <;> rfl

theorem filterMap_piecesOf (pending : List Char) (founds : List Found) (rest : List Char) :
    (piecesOf pending founds rest).filterMap Piece.coordinate? =
      founds.filterMap Found.coordinate? := by
  induction founds generalizing pending with
  | nil => rw [piecesOf, filterMap_plainPiece, List.filterMap_nil]
  | cons found more ih =>
    rw [piecesOf]
    split
    · rename_i coordinate made
      rw [List.filterMap_append, filterMap_plainPiece, List.filterMap_cons_some made,
        List.nil_append, List.filterMap_cons, ih]
      rfl
    · rename_i unmade
      rw [ih, List.filterMap_cons_none unmade]

/-- No literal that has a value stands anywhere in the text. -/
def HasNoCoordinate (s : List Char) : Prop :=
  ∀ i x y written, Literal.Writes x y written → ¬written <+: s.drop i

/-- A cut that makes no coordinate has none. -/
theorem Cut.hasNoCoordinate (cut : Cut s founds rest)
    (unmade : ∀ found ∈ founds, found.coordinate? = none) : HasNoCoordinate s := by
  intro i x y written writes front
  obtain ⟨coordinate, member, -⟩ := cut.exists_placed writes 0 front
  rw [placed_eq_nil 0 unmade] at member
  exact absurd member List.not_mem_nil

theorem eq_of_mem_plainPiece {text text' : List Char} (member : .plain text ∈ plainPiece text') :
    text = text' := by
  rw [plainPiece] at member
  split at member
  · exact absurd member List.not_mem_nil
  · simpa using member

/-- **What stays plain holds no coordinate**, where the text of the finds in `skipped` has not been
handed out. -/
theorem Cut.hasNoCoordinate_of_plain {skipped : List Found} {text : List Char}
    (cut : Cut s (skipped ++ founds) rest) (unmade : ∀ found ∈ skipped, found.coordinate? = none)
    (member : .plain text ∈ piecesOf (skipped.flatMap Found.written) founds rest) :
    HasNoCoordinate text := by
  induction founds generalizing s skipped with
  | nil =>
    rw [List.append_nil] at cut
    obtain rfl := (eq_of_mem_plainPiece member).trans cut.flatMap_written
    exact cut.hasNoCoordinate unmade
  | cons found more ih =>
    rw [piecesOf] at member
    split at member
    · rw [List.mem_append, List.mem_cons] at member
      rcases member with member | member | member
      · obtain rfl := eq_of_mem_plainPiece member
        exact cut.part.hasNoCoordinate unmade
      · cases member
      · obtain ⟨after, cut⟩ := cut.exists_drop
        cases cut with
        | next spells lead tail stops cut => exact @ih _ [] cut (by simp) member
    · rename_i unmadeHere
      refine @ih s (skipped ++ [found]) (by simpa using cut) ?_ (by simpa using member)
      simpa [or_imp, forall_and] using ⟨unmade, unmadeHere⟩

theorem split?_eq_none_iff {text : List Char} : split? text = none ↔ coordinates text = [] := by
  rw [split?]
  split
  · rename_i empty
    simpa using empty
  · rename_i nonempty
    simpa using nonempty

/-- **The coordinates of a text are all of its literals that have a value**, from left to right, and
no two at one position.  Each one is led up to by text without a literal, and its tail is as long as
it can be.  A text is cut into pieces just if it has a coordinate; the pieces hold the same ones in
the same order, and none is left in plain text. -/
theorem coordinates_exact (text : List Char) :
    (∃ places : List (Nat × Coordinate), places.map Prod.snd = coordinates text ∧
      (places.Pairwise fun p q => p.1 < q.1) ∧
      (∀ place ∈ places, place.2.StandsAt text place.1) ∧
      ∀ i x y written, Literal.Writes x y written → written <+: text.drop i →
        ∃ found, (i, found) ∈ places ∧ found.x = x ∧ found.y = y) ∧
    (split? text = none ↔ coordinates text = []) ∧
    ∀ pieces, split? text = some pieces →
      pieces.filterMap Piece.coordinate? = coordinates text ∧
        ∀ plain, .plain plain ∈ pieces → HasNoCoordinate plain := by
  have cut := cut_scan text
  refine ⟨⟨placed 0 (scan text).1, map_snd_placed 0 _, cut.pairwise_placed 0,
    cut.standsAt_of_mem_placed [], fun i x y written writes front => ?_⟩, split?_eq_none_iff,
    fun pieces found => ?_⟩
  · obtain ⟨found, member, same⟩ := cut.exists_placed writes 0 front
    exact ⟨found, Nat.zero_add i ▸ member, same⟩
  · rw [split?] at found
    split at found
    · cases found
    · obtain rfl := Option.some.inj found
      refine ⟨filterMap_piecesOf _ _ _, fun plain member => ?_⟩
      exact @Cut.hasNoCoordinate_of_plain _ _ _ [] plain cut (by simp) member

end GuideMarkup
