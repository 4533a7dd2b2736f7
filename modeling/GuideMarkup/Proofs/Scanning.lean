import GuideMarkup.Proofs.Literals
import GuideMarkup.Proofs.Visit
import Mathlib.Data.List.Forall2
import Mathlib.Data.List.Infix

/-!
# Proofs/Scanning — scanning finds every coordinate and loses no text

    text  =  lead literal tail · lead literal tail · … · rest

`Cut` says what a scan has to do with its text, and `cut_scan` that it does: each lead has no
literal in it, each tail is as long as it can be, and no literal is in what is left over.  A literal
opens once, and no tail goes past an opening bracket, so a cut passes no literal by
(`Cut.exists_placed`).  A part of a cut is a cut of its own text (`Cut.part`), which is why plain
pieces hold no coordinate although they may hold literals.
-/

namespace GuideMarkup

/-! ## Cuts -/

/-- No literal begins anywhere in the text. -/
def HasNoLiteral (s : List Char) : Prop :=
  ∀ i, ¬Literal.Begins (s.drop i)

/-- **The text is cut at its literals.** -/
inductive Cut : List Char → List Found → List Char → Prop
  | done {rest : List Char} (none : HasNoLiteral rest) : Cut rest [] rest
  | next {found : Found} {after rest : List Char} {more : List Found}
      (spells : Literal.Spells found.literal.x found.literal.y found.literal.written)
      (lead : ∀ i < found.lead.length, ¬Literal.Begins ((found.written ++ after).drop i))
      (tail : ∀ c ∈ found.tail, isTailChar c = true) (stops : StartsWithout isTailChar after)
      (cut : Cut after more rest) : Cut (found.written ++ after) (found :: more) rest

theorem firstLiteral?_eq_none {s : List Char} (none : firstLiteral? s = none) : HasNoLiteral s := by
  induction s with
  | nil =>
    intro i begins
    rw [List.drop_nil] at begins
    exact Literal.not_begins_nil begins
  | cons c rest ih =>
    rw [firstLiteral?] at none
    split at none
    · exact absurd none (Option.some_ne_none _)
    · rename_i unread
      rintro (_ | i) begins
      · obtain ⟨literal, after, read⟩ := Literal.begins_iff.mp begins
        exact absurd (read.symm.trans unread) (Option.some_ne_none _)
      · exact ih (Option.map_eq_none_iff.mp none) i begins

theorem firstLiteral?_eq_some {s lead after : List Char} {literal : Literal}
    (found : firstLiteral? s = some (lead, literal, after)) :
    Literal.Spells literal.x literal.y literal.written ∧ s = lead ++ literal.written ++ after ∧
      ∀ i < lead.length, ¬Literal.Begins (s.drop i) := by
  induction s generalizing lead with
  | nil => cases found
  | cons c rest ih =>
    rw [firstLiteral?] at found
    split at found
    · rename_i read
      obtain ⟨rfl, rfl, rfl⟩ := by simpa using found
      obtain ⟨spells, split⟩ := Literal.spells_of_read? read
      exact ⟨spells, split, fun i inLead => absurd inLead (Nat.not_lt_zero i)⟩
    · rename_i unread
      obtain ⟨⟨lead, _, _⟩, inRest, same⟩ := Option.map_eq_some_iff.mp found
      obtain ⟨rfl, rfl, rfl⟩ := by simpa using same
      obtain ⟨spells, split, noLiteral⟩ := ih inRest
      refine ⟨spells, by rw [split]; rfl, ?_⟩
      rintro (_ | i) inLead begins
      · obtain ⟨literal, after, read⟩ := Literal.begins_iff.mp begins
        exact absurd (read.symm.trans unread) (Option.some_ne_none _)
      · exact noLiteral i (Nat.lt_of_succ_lt_succ inLead) begins

theorem startsWithout_dropWhile {p : Char → Bool} (s : List Char) :
    StartsWithout p (s.dropWhile p) := by
  intro c first
  have stops := List.head?_dropWhile_not p s
  rw [Option.mem_def.mp first] at stops
  exact stops

/-- **A scan cuts its text at the literals.** -/
theorem cut_scan (s : List Char) : Cut s (scan s).1 (scan s).2 := by
  rw [scan]
  split
  · rename_i none
    exact .done (firstLiteral?_eq_none none)
  · rename_i lead literal after found
    have shorter : (after.dropWhile isTailChar).length < s.length :=
      Nat.lt_of_le_of_lt (List.dropWhile_suffix _).length_le (firstLiteral?_append found).2
    have rest := cut_scan (after.dropWhile isTailChar)
    obtain ⟨spells, split, noLiteral⟩ := firstLiteral?_eq_some found
    have whole : s = Found.written ⟨lead, literal, after.takeWhile isTailChar⟩ ++
        after.dropWhile isTailChar := by
      rw [split, Found.written, List.append_assoc _ (after.takeWhile _),
        List.takeWhile_append_dropWhile]
    change Cut s (_ :: (scan (after.dropWhile isTailChar)).1) (scan (after.dropWhile isTailChar)).2
    rw [whole] at noLiteral ⊢
    exact .next spells noLiteral (List.all_eq_true.mp List.all_takeWhile)
      (startsWithout_dropWhile _) rest
  termination_by s.length

namespace Cut

variable {s rest : List Char} {founds more : List Found}

/-- A cut loses no text. -/
theorem flatMap_written (cut : Cut s founds rest) : founds.flatMap Found.written ++ rest = s := by
  induction cut with
  | done none => rfl
  | next spells lead tail stops cut ih => rw [List.flatMap_cons, List.append_assoc, ih]

theorem spells (cut : Cut s founds rest) : ∀ found ∈ founds,
    Literal.Spells found.literal.x found.literal.y found.literal.written := by
  induction cut with
  | done none => simp
  | next spells lead tail stops cut ih => simpa using ⟨spells, ih⟩

/-- The last finds of a cut are a cut of the text that is left for them. -/
theorem exists_drop {firsts : List Found} (cut : Cut s (firsts ++ more) rest) :
    ∃ s', Cut s' more rest := by
  induction firsts generalizing s with
  | nil => exact ⟨s, cut⟩
  | cons found firsts ih =>
    cases cut with
    | next spells lead tail stops cut => exact ih cut

/-- **The first finds of a cut are a cut of their own text.** -/
theorem part (cut : Cut s (founds ++ more) rest) :
    Cut (founds.flatMap Found.written) founds [] := by
  induction founds generalizing s with
  | nil => exact .done (firstLiteral?_eq_none rfl)
  | cons found founds ih =>
    cases cut with
    | @next _ after _ _ spells lead tail stops cut =>
      obtain ⟨others, split⟩ : founds.flatMap Found.written <+: after := by
        refine ⟨more.flatMap Found.written ++ rest, ?_⟩
        rw [← cut.flatMap_written, List.append_eq, List.flatMap_append, List.append_assoc]
      rw [← split] at lead stops
      refine .next spells (fun i inLead begins => lead i inLead (begins.mono ?_)) tail
        stops.of_append (ih cut)
      rw [← List.append_assoc]
      exact (List.prefix_append _ others).drop i

end Cut

/-! ## Nothing is lost -/

/-- **What a piece stands for**: plain text for itself, and a coordinate for a literal with its
numbers between its lead and its tail. -/
inductive Piece.StandsFor : Piece → List Char → Prop
  | plain (text : List Char) : StandsFor (.plain text) text
  | coordinate {found : Coordinate} {written : List Char}
      (writes : Literal.Writes found.x found.y written) :
      StandsFor (.coordinate found) (found.lead ++ written ++ found.tail)

theorem Found.coordinate?_eq_some_iff {found : Found} {coordinate : Coordinate} :
    found.coordinate? = some coordinate ↔
      found.literal.value? = some (coordinate.x, coordinate.y) ∧ found.lead = coordinate.lead ∧
        found.tail = coordinate.tail := by
  obtain ⟨lead, x, y, tail⟩ := coordinate
  rw [coordinate?, Option.map_eq_some_iff]
  constructor
  · rintro ⟨⟨a, b⟩, value, same⟩
    obtain ⟨rfl, rfl, rfl, rfl⟩ := by simpa using same
    exact ⟨value, rfl, rfl⟩
  · rintro ⟨value, rfl, rfl⟩
    exact ⟨(x, y), value, rfl⟩

/-- A find with a value writes its coordinate. -/
theorem Found.writes {found : Found} {coordinate : Coordinate}
    (spells : Literal.Spells found.literal.x found.literal.y found.literal.written)
    (made : found.coordinate? = some coordinate) :
    Literal.Writes coordinate.x coordinate.y found.literal.written := by
  obtain ⟨value, -, -⟩ := Found.coordinate?_eq_some_iff.mp made
  exact ⟨_, _, spells, Literal.value?_eq_some_iff.mp value⟩

theorem exists_standsFor_plainPiece (text : List Char) :
    ∃ texts, List.Forall₂ Piece.StandsFor (plainPiece text) texts ∧ texts.flatten = text := by
  rw [plainPiece]
  split
  · rename_i empty
    exact ⟨[], .nil, (List.isEmpty_iff.mp empty).symm⟩
  · exact ⟨[text], .cons (.plain text) .nil, List.append_nil text⟩

theorem exists_standsFor_append {α : Type} {R : α → List Char → Prop} {xs ys : List α}
    {s t : List Char} (first : ∃ texts, List.Forall₂ R xs texts ∧ texts.flatten = s)
    (second : ∃ texts, List.Forall₂ R ys texts ∧ texts.flatten = t) :
    ∃ texts, List.Forall₂ R (xs ++ ys) texts ∧ texts.flatten = s ++ t := by
  obtain ⟨texts, related, rfl⟩ := first
  obtain ⟨others, related', rfl⟩ := second
  exact ⟨texts ++ others, List.rel_append related related', List.flatten_append⟩

/-- **The pieces stand for all of the text.** -/
theorem exists_standsFor_piecesOf {founds : List Found} (pending rest : List Char)
    (spells : ∀ found ∈ founds,
      Literal.Spells found.literal.x found.literal.y found.literal.written) :
    ∃ texts, List.Forall₂ Piece.StandsFor (piecesOf pending founds rest) texts ∧
      texts.flatten = pending ++ founds.flatMap Found.written ++ rest := by
  induction founds generalizing pending with
  | nil => simpa [piecesOf] using exists_standsFor_plainPiece (pending ++ rest)
  | cons found more ih =>
    obtain ⟨here, there⟩ := List.forall_mem_cons.mp spells
    rw [piecesOf]
    split
    · rename_i coordinate made
      obtain ⟨-, lead, tail⟩ := Found.coordinate?_eq_some_iff.mp made
      obtain ⟨texts, related, flat⟩ := ih [] there
      have split := exists_standsFor_append (exists_standsFor_plainPiece pending)
        ⟨_, .cons (.coordinate (Found.writes here made)) related, rfl⟩
      simpa [flat, Found.written, lead, tail] using split
    · simpa [Found.written] using ih (pending ++ found.written) there

/-- The node stands for the text: a text that is not empty for itself, a coordinate for a literal
with its numbers. -/
inductive Node.StandsFor : Node → List Char → Prop
  | text {s : List Char} (nonempty : s ≠ []) : StandsFor (Node.text (String.ofList s)) s
  | position {token : PositionToken} {written : List Char}
      (writes : Literal.Writes token.x token.y written) :
      StandsFor (Node.leaf (.position token)) written

theorem exists_standsFor_plainNodes (s : List Char) :
    ∃ texts, List.Forall₂ Node.StandsFor (plainNodes s) texts ∧ texts.flatten = s := by
  rw [plainNodes]
  split
  · rename_i empty
    exact ⟨[], .nil, (List.isEmpty_iff.mp empty).symm⟩
  · rename_i nonempty
    exact ⟨[s], .cons (.text (by simpa using nonempty)) .nil, List.append_nil s⟩

theorem exists_standsFor_pieceNodes (ctx : Context) {piece : Piece} {s : List Char}
    (stands : piece.StandsFor s) :
    ∃ texts, List.Forall₂ Node.StandsFor (pieceNodes ctx piece) texts ∧ texts.flatten = s := by
  cases stands with
  | plain => exact exists_standsFor_plainNodes s
  | @coordinate found written writes =>
    have token : ∃ texts, List.Forall₂ Node.StandsFor
        [Node.leaf (.position (ctx.positionToken found))] texts ∧ texts.flatten = written :=
      ⟨[written], .cons (.position writes) .nil, List.append_nil written⟩
    rw [List.append_assoc]
    exact exists_standsFor_append (exists_standsFor_plainNodes found.lead)
      (exists_standsFor_append token (exists_standsFor_plainNodes found.tail))

theorem exists_standsFor_flatMap (ctx : Context) {pieces : List Piece} {texts : List (List Char)}
    (stand : List.Forall₂ Piece.StandsFor pieces texts) :
    ∃ shown, List.Forall₂ Node.StandsFor (pieces.flatMap (pieceNodes ctx)) shown ∧
      shown.flatten = texts.flatten := by
  induction stand with
  | nil => exact ⟨[], .nil, rfl⟩
  | cons here there ih => exact exists_standsFor_append (exists_standsFor_pieceNodes ctx here) ih

theorem exists_standsFor_split? {text : List Char} {pieces : List Piece}
    (found : split? text = some pieces) :
    ∃ texts, List.Forall₂ Piece.StandsFor pieces texts ∧ texts.flatten = text := by
  rw [split?] at found
  split at found
  · exact absurd found nofun
  · obtain rfl := Option.some.inj found
    have cut := cut_scan text
    obtain ⟨texts, related, flat⟩ := exists_standsFor_piecesOf [] (scan text).2 cut.spells
    exact ⟨texts, related, by rw [flat, List.nil_append, cut.flatMap_written]⟩

/-- **Scanning loses no text.**  The pieces of a text stand for all of it, and what a text becomes
that is not hidden is the whole text, or a group of nodes that stand for all of it. -/
theorem exists_standsFor_text (rules : List Rule) (ctx : Context) :
    (∀ (text : List Char) (pieces : List Piece), split? text = some pieces →
      ∃ texts, List.Forall₂ Piece.StandsFor pieces texts ∧ texts.flatten = text) ∧
    ∀ (ancestors : List Tag) (following : List Markup) (value : String) (pass : Pass),
      ctx.hides value ≠ .ok true →
      (transformNode rules ctx ancestors following (.text value) pass).1 = Node.text value ∨
        ∃ children texts,
          (transformNode rules ctx ancestors following (.text value) pass).1 =
            Node.group children ∧
          List.Forall₂ Node.StandsFor children texts ∧ texts.flatten = value.toList := by
  refine ⟨fun text pieces => exists_standsFor_split?, ?_⟩
  intro ancestors following value pass shown
  rw [transformNode]
  cases @transformText_cases ctx value pass with
  | hidden hides becomes => exact absurd hides shown
  | plain shows none becomes => exact .inl (by rw [becomes])
  | failed fault fails becomes => exact .inl (by rw [becomes])
  | scanned shows pieces found becomes =>
    obtain ⟨texts, related, flat⟩ := exists_standsFor_split? found
    obtain ⟨shown, stand, same⟩ := exists_standsFor_flatMap ctx related
    exact .inr ⟨_, shown, by rw [becomes], stand, same.trans flat⟩

/-! ### A coordinate in digits of two scripts -/

/-- A text with one coordinate, and with brackets that are none. -/
def mixedText : String := "at [ -٣ ,\n4 ] (x)! [5;6] end"

/-- Its pieces. -/
def mixedPieces : List Piece :=
  [.coordinate ⟨"at ".toList, -3, 4, " (x)".toList⟩, .plain "! [5;6] end".toList]

/-- The text is shown, and its pieces stand for all of it. -/
theorem exists_standsFor_text_mixedText :
    Context.preview.hides mixedText ≠ .ok true ∧ split? mixedText.toList = some mixedPieces ∧
      ∃ texts, List.Forall₂ Piece.StandsFor mixedPieces texts ∧
        texts.flatten = mixedText.toList := by
  have pieces : split? mixedText.toList = some mixedPieces := by decide +kernel
  have shown : Context.preview.hides mixedText = .ok false := by rfl
  exact ⟨by rw [shown]; nofun, pieces,
    (exists_standsFor_text Rule.standard .preview).1 _ _ pieces⟩

end GuideMarkup
