import GuideMarkup.Proofs.JsonReader
import GuideMarkup.Proofs.Literals
import GuideMarkup.Proofs.Tables
import Mathlib.Data.List.DropRight

/-!
# Proofs/RoundTrip — what is written as JSON is read as it was

    value  ──write──▸  text  ──read──▸  value

`Reads` says this of a value at any depth, with anything behind it that does not go on with a
number; so it can be proved of one kind of value after the other.  Characters come first, by the
three ways in which they are written (`escape_cases`), then integers, and then lists and objects,
one item or field at a time.  The reader bounds its depth, for which the length of the written text
is always enough.
-/

namespace GuideMarkup
namespace Json

/-! ## Texts -/

theorem quad?_hex : ∀ n < 0x20, quad? (hex 4 n) = some n := by
  decide

/-- The ways in which a character is written. -/
theorem escape_cases (c : Char) :
    (∃ letter, letters.lookup letter = some c ∧ escape c = ['\\', letter]) ∨
      (c.toNat < 0x20 ∧ escape c = '\\' :: 'u' :: hex 4 c.toNat) ∨
        c ≠ '"' ∧ c ≠ '\\' ∧ 0x20 ≤ c.toNat ∧ escape c = [c] := by
  rw [escape]
  split_ifs with quote backslash lineFeed carriage tab backspace formFeed control
  · exact .inl ⟨'"', by subst quote; rfl, rfl⟩
  · exact .inl ⟨'\\', by subst backslash; rfl, rfl⟩
  · exact .inl ⟨'n', by subst lineFeed; rfl, rfl⟩
  · exact .inl ⟨'r', by subst carriage; rfl, rfl⟩
  · exact .inl ⟨'t', by subst tab; rfl, rfl⟩
  · exact .inl ⟨'b', by subst backspace; rfl, rfl⟩
  · exact .inl ⟨'f', by subst formFeed; rfl, rfl⟩
  · exact .inr (.inl ⟨control, rfl⟩)
  · exact .inr (.inr ⟨quote, backslash, Nat.le_of_not_lt control, rfl⟩)

/-- **A character is read as it was written.** -/
theorem units?_escape (c : Char) (s : List Char) :
    units? (escape c ++ s) = (units? s).map fun (units, s) => (c.toNat :: units, s) := by
  obtain ⟨letter, known, written⟩ | ⟨control, written⟩ | ⟨quote, backslash, plain, written⟩ :=
    escape_cases c
  · have notNumber : letter ≠ 'u' := by
      rintro rfl
      exact absurd known nofun
    rw [written, List.cons_append, List.cons_append, List.nil_append, units?, known]
    · rcases units? s with _ | _ <;> rfl
    · intro a b c d s same
      exact absurd same notNumber
  · have digits : [_, _, _, _] = hex 4 c.toNat := rfl
    have known := quad?_hex c.toNat control
    rw [← digits] at known
    rw [written, ← digits]
    simp only [List.cons_append, List.nil_append, units?, known]
    rcases units? s with _ | _ <;> rfl
  · rw [written, List.cons_append, List.nil_append, units?, if_neg]
    · rcases units? s with _ | _ <;> rfl
    · simp [backslash, plain]
    · exact quote
    · intro a b c d s same
      exact absurd same backslash
    · intro letter s same
      exact absurd same backslash

theorem units?_flatMap_escape (s after : List Char) :
    units? (s.flatMap escape ++ '"' :: after) = some (s.map Char.toNat, after) := by
  induction s with
  | nil => simp [units?]
  | cons c s ih => rw [List.flatMap_cons, List.append_assoc, units?_escape, ih]; rfl

/-- No character is half of a pair. -/
theorem isHigh_isLow_toNat (c : Char) : isHigh c.toNat = false ∧ isLow c.toNat = false := by
  have valid : c.toNat < 0xD800 ∨ 0xDFFF < c.toNat ∧ c.toNat < 0x110000 := c.valid
  simp only [isHigh, isLow, Bool.and_eq_false_iff, decide_eq_false_iff_not]
  omega

theorem characters?_map_toNat (s : List Char) : characters? (s.map Char.toNat) = some s := by
  induction s with
  | nil => rfl
  | cons c s ih =>
    obtain ⟨notHigh, notLow⟩ := isHigh_isLow_toNat c
    have one : characters? (c.toNat :: s.map Char.toNat) =
        (characters? (s.map Char.toNat)).map (Char.ofNat c.toNat :: ·) := by
      cases s <;> simp [characters?, notHigh, notLow]
    rw [List.map_cons, one, ih, Char.ofNat_toNat]
    rfl

/-- **A text is read as it was written.** -/
theorem string?_escape (s : String) (after : List Char) :
    string? (s.toList.flatMap escape ++ '"' :: after) = some (s, after) := by
  rw [string?, units?_flatMap_escape]
  simp [characters?_map_toNat]

/-! ## Numbers -/

/-- What follows a number does not go on with it. -/
def goesOn (c : Char) : Bool :=
  c.isDigit || c = '.' || c = 'e' || c = 'E'

/-- A number other than zero is written without needless zeros. -/
theorem head?_toDigits {n : Nat} (pos : 0 < n) : (Nat.toDigits 10 n).head? ≠ some '0' := by
  induction n using Nat.strongRecOn with
  | ind n ih =>
    rw [Nat.toDigits_eq_if (by decide)]
    split
    · have nonzero : ∀ n < 10, 0 < n → n.digitChar ≠ '0' := by decide
      simpa using nonzero n ‹_› pos
    · rw [List.head?_append_of_ne_nil _ Nat.toDigits_ne_nil]
      exact ih (n / 10) (by omega) (by omega)

theorem whole?_toDigits {after : List Char} (ends : StartsWithout Char.isDigit after) (n : Nat) :
    whole? (Nat.toDigits 10 n ++ after) = some (Nat.toDigits 10 n, after) := by
  have all : ∀ c ∈ Nat.toDigits 10 n, c.isDigit = true :=
    fun _ => Nat.isDigit_of_mem_toDigits (by decide) (by decide)
  have found : digits? (Nat.toDigits 10 n ++ after) = some (Nat.toDigits 10 n, after) := by
    rw [digits?, takeWhile_append all ends, dropWhile_append all ends]
    split
    · exact absurd ‹_› Nat.toDigits_ne_nil
    · rfl
  rw [whole?, found, Option.filter_some_pos]
  obtain rfl | pos := n.eq_zero_or_pos
  · rfl
  · simp [head?_toDigits pos]

theorem fraction?_of_ends {after : List Char} (ends : StartsWithout goesOn after) :
    fraction? after = some ([], after) := by
  rw [fraction?]
  rintro s rfl
  exact absurd (startsWithout_cons.mp ends) (by decide)

theorem exponent?_of_ends {after : List Char} (ends : StartsWithout goesOn after) :
    exponent? after = some (none, after) := by
  rw [exponent?]
  · rintro s rfl
    exact absurd (startsWithout_cons.mp ends) (by decide)
  · rintro s rfl
    exact absurd (startsWithout_cons.mp ends) (by decide)

theorem unsigned?_toDigits {after : List Char} (ends : StartsWithout goesOn after)
    (negative : Bool) (n : Nat) :
    unsigned? negative (Nat.toDigits 10 n ++ after) =
      some (.int (if negative then -n else n), after) := by
  have noDigit : StartsWithout Char.isDigit after := fun c first => by
    have stops := ends c first
    simp only [goesOn, Bool.or_eq_false_iff] at stops
    exact stops.1.1.1
  simp [unsigned?, whole?_toDigits noDigit, fraction?_of_ends ends, exponent?_of_ends ends,
    Nat.ofDigitChars_ten_toDigits]

theorem exists_toDigits (n : Nat) :
    ∃ c digits, Nat.toDigits 10 n = c :: digits ∧ c.isDigit = true := by
  obtain ⟨c, digits, found⟩ := List.exists_cons_of_ne_nil (@Nat.toDigits_ne_nil n 10)
  refine ⟨c, digits, found, ?_⟩
  exact Nat.isDigit_of_mem_toDigits (by decide) (by decide) (found ▸ List.mem_cons_self)

/-- **An integer is read as it was written.** -/
theorem number?_toString {after : List Char} (ends : StartsWithout goesOn after) (n : Int) :
    number? ((toString n).toList ++ after) = some (.int n, after) := by
  rw [toList_toString]
  split
  · rw [List.cons_append, number?, unsigned?_toDigits ends, if_pos rfl]
    congr
    omega
  · rw [number?, unsigned?_toDigits ends]
    · congr
      simp; omega
    · obtain ⟨c, digits, found, digit⟩ := exists_toDigits n.natAbs
      rw [found]
      rintro s ⟨⟩
      exact absurd digit (by decide)

/-! ## Values -/

theorem skip_cons {c : Char} (mark : isSpace c = false) (s : List Char) :
    skip (c :: s) = c :: s :=
  List.dropWhile_cons_of_neg (by simp [mark])

theorem skip_newline (depth : Nat) (s : List Char) : skip (newline depth ++ s) = skip s := by
  refine List.dropWhile_append_of_pos fun c member => ?_
  obtain rfl | member := List.mem_cons.mp member
  · rfl
  · rw [List.eq_of_mem_replicate member]
    rfl

theorem value?_newline (fuel depth : Nat) (s : List Char) :
    value? fuel (newline depth ++ s) = value? fuel s := by
  rcases fuel with _ | fuel
  · rfl
  · rw [value?, value?, skip_newline]

/-- An integer begins with a digit or a minus sign. -/
theorem exists_toString (n : Int) :
    ∃ c s, (toString n).toList = c :: s ∧ (c = '-' ∨ c.isDigit = true) := by
  rw [toList_toString]
  split
  · exact ⟨_, _, rfl, .inl rfl⟩
  · obtain ⟨c, digits, found, digit⟩ := exists_toDigits n.natAbs
    exact ⟨c, digits, found, .inr digit⟩

/-- The characters with which other values begin, and the blanks. -/
def otherStarts : List Char :=
  ['"', '[', '\x7b', 'n', 't', 'f', ' ', '\t', '\n', '\r']

theorem not_number_of_otherStarts :
    ∀ mark ∈ otherStarts, ¬(mark = '-' ∨ mark.isDigit = true) := by
  simp [otherStarts]

/-- What begins with a digit or a minus sign is a number. -/
theorem value?_of_number {c : Char} (number : c = '-' ∨ c.isDigit = true) (fuel : Nat)
    (s : List Char) : value? (fuel + 1) (c :: s) = number? (c :: s) := by
  have other : ∀ mark ∈ otherStarts, c ≠ mark :=
    fun mark member same => not_number_of_otherStarts mark member (same ▸ number)
  simp only [otherStarts, List.forall_mem_cons] at other
  have mark : isSpace c = false := by simp [isSpace, other]
  rw [value?, skip_cons mark]
  simp [single?, other]

/-- The value is read as it is written, at any depth, in front of what ends a number. -/
def Reads (value : Data) : Prop :=
  ∀ (depth fuel : Nat) (after : List Char), StartsWithout goesOn after →
    (write depth value).length ≤ fuel →
      value? (fuel + 1) (write depth value ++ after) = some (value, after)

/-! ### Lists -/

theorem value?_skip (fuel : Nat) (s : List Char) : value? fuel (skip s) = value? fuel s := by
  rcases fuel with _ | fuel
  · rfl
  · rw [value?, value?, skip, skip, List.dropWhile_idempotent]

theorem items?_skip (fuel : Nat) (s : List Char) : items? fuel (skip s) = items? fuel s := by
  rcases fuel with _ | fuel
  · rfl
  · rw [items?, items?, value?_skip]

/-- A bracket in front of items opens a list. -/
theorem value?_list {fuel : Nat} {s after : List Char} {items : List Data}
    (inside : items? fuel s = some (items, after)) :
    value? (fuel + 1) ('[' :: s) = some (.list items, after) := by
  have notClosing : ∀ s', skip s ≠ ']' :: s' := fun s' closing => by
    rw [← items?_skip, closing] at inside
    rcases fuel with _ | _ | fuel <;> exact absurd inside nofun
  rw [value?, skip_cons rfl]
  simp [items?_skip, inside]

/-- A comma goes on with a list. -/
theorem items?_comma {fuel : Nat} {s rest after : List Char} {item : Data} {items : List Data}
    (first : value? fuel s = some (item, ',' :: rest))
    (more : items? fuel rest = some (items, after)) :
    items? (fuel + 1) s = some (item :: items, after) := by
  have comma : skip (',' :: rest) = ',' :: rest := skip_cons rfl rest
  rw [items?, first]
  simp [comma, more]

/-- A bracket ends a list. -/
theorem items?_closing {fuel : Nat} {s rest after : List Char} {item : Data}
    (last : value? fuel s = some (item, rest)) (closing : skip rest = ']' :: after) :
    items? (fuel + 1) s = some ([item], after) := by
  rw [items?, last]
  simp [closing]

theorem startsWithout_writeItems (depth : Nat) (items : List Data) {s : List Char}
    (ends : StartsWithout goesOn s) : StartsWithout goesOn (writeItems depth items ++ s) := by
  rcases items with _ | ⟨item, rest⟩
  · exact ends
  · rw [writeItems]
    exact startsWithout_cons.mpr rfl

/-- **Items are read as they are written**, if each of them is. -/
theorem items?_writeItems {depth outer : Nat} {after : List Char} {items : List Data} {item : Data}
    {fuel : Nat} (reads : ∀ value ∈ item :: items, Reads value)
    (enough : (write depth item).length + (writeItems depth items).length ≤ fuel) :
    items? (fuel + 2) (newline depth ++ (write depth item ++
      (writeItems depth items ++ (newline outer ++ ']' :: after)))) =
        some (item :: items, after) := by
  induction items generalizing item fuel with
  | nil =>
    have last := reads item List.mem_cons_self depth fuel (newline outer ++ ']' :: after)
      (startsWithout_cons.mpr rfl) (by omega)
    rw [← value?_newline _ depth] at last
    exact items?_closing last (skip_newline outer _)
  | cons next rest ih =>
    have first := reads item List.mem_cons_self depth fuel
      (writeItems depth (next :: rest) ++ (newline outer ++ ']' :: after))
      (startsWithout_writeItems depth _ (startsWithout_cons.mpr rfl)) (by omega)
    rw [← value?_newline _ depth] at first
    simp only [writeItems, List.append_assoc, List.cons_append, List.length_append,
      List.length_cons] at first enough ⊢
    obtain ⟨fuel, rfl⟩ : ∃ less, fuel = less + 1 := ⟨fuel - 1, by omega⟩
    exact items?_comma first (ih (List.forall_mem_cons.mp reads).2 (by omega))

/-! ### Objects -/

theorem name?_fieldStart (depth : Nat) (name : String) (s : List Char) :
    name? (newline depth ++ (fieldStart (.text name) ++ s)) = some (name, ' ' :: s) := by
  have written : fieldStart (.text name) ++ s =
      '"' :: (name.toList.flatMap escape ++ '"' :: ':' :: ' ' :: s) := by
    simp [fieldStart, quote, fieldName, Key.display]
  rw [name?, skip_newline, written, skip_cons rfl]
  have colon : skip (':' :: ' ' :: s) = ':' :: ' ' :: s := skip_cons rfl _
  simp [string?_escape, colon]

theorem value?_blank (fuel : Nat) (s : List Char) : value? fuel (' ' :: s) = value? fuel s := by
  have blank : skip (' ' :: s) = skip s := rfl
  rw [← value?_skip, blank, value?_skip]

/-- A brace in front of fields opens an object. -/
theorem value?_object {fuel : Nat} {s after : List Char} {fields : Fields}
    (inside : fields? fuel s = some (fields, after)) :
    value? (fuel + 1) ('\x7b' :: s) = some (.object (Table.ofEntries fields), after) := by
  have notClosing : ∀ s', skip s ≠ '\x7d' :: s' := fun s' closing => by
    rcases fuel with _ | fuel
    · exact absurd inside nofun
    · rw [fields?, name?, closing] at inside
      exact absurd inside nofun
  have skipped : fields? fuel (skip s) = fields? fuel s := by
    rcases fuel with _ | fuel
    · rfl
    · rw [fields?, fields?, name?, name?, skip, skip, List.dropWhile_idempotent]
  rw [value?, skip_cons rfl]
  simp [skipped, inside]

/-- A comma goes on with an object. -/
theorem fields?_comma {fuel : Nat} {name : String} {s rest after : List Char} {value : Data}
    {fields : Fields} (first : value? fuel s = some (value, ',' :: rest))
    (more : fields? fuel rest = some (fields, after)) (depth : Nat) :
    fields? (fuel + 1) (newline depth ++ (fieldStart (.text name) ++ s)) =
      some ((.text name, value) :: fields, after) := by
  have comma : skip (',' :: rest) = ',' :: rest := skip_cons rfl rest
  rw [fields?, name?_fieldStart]
  simp [value?_blank, first, comma, more]

/-- A brace ends an object. -/
theorem fields?_closing {fuel : Nat} {name : String} {s rest after : List Char} {value : Data}
    (last : value? fuel s = some (value, rest)) (closing : skip rest = '\x7d' :: after)
    (depth : Nat) : fields? (fuel + 1) (newline depth ++ (fieldStart (.text name) ++ s)) =
      some ([(.text name, value)], after) := by
  rw [fields?, name?_fieldStart]
  simp [value?_blank, last, closing]

theorem startsWithout_writeFields (depth : Nat) (fields : Fields) {s : List Char}
    (ends : StartsWithout goesOn s) : StartsWithout goesOn (writeFields depth fields ++ s) := by
  rcases fields with _ | ⟨⟨key, value⟩, rest⟩
  · exact ends
  · rw [writeFields]
    exact startsWithout_cons.mpr rfl

/-- **Fields are read as they are written**, if their names are texts and their values are read. -/
theorem fields?_writeFields {depth outer : Nat} {after : List Char} {fields : Fields}
    {name : String} {value : Data} {fuel : Nat}
    (texts : ∀ field ∈ fields, ∃ name, field.1 = .text name)
    (reads : ∀ field ∈ (Key.text name, value) :: fields, Reads field.2)
    (enough : (write depth value).length + (writeFields depth fields).length ≤ fuel) :
    fields? (fuel + 2) (newline depth ++ (fieldStart (.text name) ++ (write depth value ++
      (writeFields depth fields ++ (newline outer ++ '\x7d' :: after))))) =
        some ((.text name, value) :: fields, after) := by
  induction fields generalizing name value fuel with
  | nil =>
    have last := reads _ List.mem_cons_self depth fuel (newline outer ++ '\x7d' :: after)
      (startsWithout_cons.mpr rfl) (by simp only; omega)
    exact fields?_closing last (skip_newline outer _) depth
  | cons field rest ih =>
    obtain ⟨⟨other, named⟩, others⟩ := List.forall_mem_cons.mp texts
    obtain ⟨key, next⟩ := field
    obtain rfl : key = .text other := named
    have first := reads _ List.mem_cons_self depth fuel
      (writeFields depth ((.text other, next) :: rest) ++ (newline outer ++ '\x7d' :: after))
      (startsWithout_writeFields depth _ (startsWithout_cons.mpr rfl)) (by simp only; omega)
    simp only [writeFields, List.append_assoc, List.cons_append, List.length_append,
      List.length_cons] at first enough ⊢
    obtain ⟨fuel, rfl⟩ : ∃ less, fuel = less + 1 := ⟨fuel - 1, by omega⟩
    exact fields?_comma first (ih others (List.forall_mem_cons.mp reads).2 (by omega)) depth

end Json

/-! ## Values that JSON has a form for -/

/-- The value is made of nulls, truth values, integers, texts, lists, and objects with texts for
names, none of them twice. -/
inductive Data.IsJson : Data → Prop
  | null : IsJson .null
  | bool (b : Bool) : IsJson (.bool b)
  | int (n : Int) : IsJson (.int n)
  | text (s : String) : IsJson (.text s)
  | list {items : List Data} (all : ∀ item ∈ items, IsJson item) : IsJson (.list items)
  | object {fields : Fields} (texts : ∀ field ∈ fields, ∃ name, field.1 = .text name)
      (distinct : Table.Distinct fields) (all : ∀ field ∈ fields, IsJson field.2) :
      IsJson (.object fields)

namespace Json

theorem reads_int (n : Int) : Reads (.int n) := by
  intro depth fuel after ends enough
  obtain ⟨c, digits, written, number⟩ := exists_toString n
  have read := number?_toString ends n
  rw [written, List.cons_append] at read
  rw [write, written, List.cons_append, value?_of_number number]
  exact read

theorem reads_text (s : String) : Reads (.text s) := by
  intro depth fuel after ends enough
  rw [write, quote, List.cons_append, List.cons_append, List.append_assoc, value?, skip_cons rfl]
  simp [string?_escape]

theorem reads_list {items : List Data} (all : ∀ item ∈ items, Reads item) :
    Reads (.list items) := by
  intro depth fuel after ends enough
  rcases items with _ | ⟨item, rest⟩
  · rfl
  · simp only [write, newline, List.length_append, List.length_cons, List.length_nil] at enough
    obtain ⟨fuel, rfl⟩ : ∃ less, fuel = less + 2 := ⟨fuel - 2, by omega⟩
    simp only [write, List.cons_append, List.append_assoc, List.nil_append]
    exact value?_list (items?_writeItems all (by omega))

theorem reads_object {fields : Fields} (texts : ∀ field ∈ fields, ∃ name, field.1 = .text name)
    (distinct : Table.Distinct fields) (all : ∀ field ∈ fields, Reads field.2) :
    Reads (.object fields) := by
  intro depth fuel after ends enough
  rcases fields with _ | ⟨⟨key, value⟩, rest⟩
  · rfl
  · obtain ⟨⟨name, named⟩, others⟩ := List.forall_mem_cons.mp texts
    obtain rfl : key = .text name := named
    simp only [write, newline, List.length_append, List.length_cons, List.length_nil] at enough
    obtain ⟨fuel, rfl⟩ : ∃ less, fuel = less + 2 := ⟨fuel - 2, by omega⟩
    simp only [write, List.cons_append, List.append_assoc, List.nil_append]
    rw [value?_object (fields?_writeFields others all (by omega)),
      Table.ofEntries_of_distinct distinct]

/-- **Every value that JSON has a form for is read as it is written.** -/
theorem reads_of_isJson {value : Data} (isJson : value.IsJson) : Reads value := by
  induction isJson with
  | null => exact fun _ _ _ _ _ => rfl
  | bool b =>
    intro depth fuel after ends enough
    rcases b with _ | _ <;> rfl
  | int n => exact reads_int n
  | text s => exact reads_text s
  | list all ih => exact reads_list ih
  | object texts distinct all ih => exact reads_object texts distinct ih

/-- **What is written as a line of JSON is read as it was.** -/
theorem read?_toJson {value : Data} (isJson : value.IsJson) :
    read? (value.toJson ++ "\n") = some value := by
  have ends : StartsWithout goesOn ['\n'] := startsWithout_cons.mpr rfl
  have read := reads_of_isJson isJson 0 (write 0 value).length ['\n'] ends (Nat.le_refl _)
  have length : (value.toJson ++ "\n").length = (write 0 value).length + 1 := by
    rw [String.length_append, Data.toJson, String.length_ofList]
    rfl
  have written : (value.toJson ++ "\n").toList = write 0 value ++ ['\n'] := by
    simp [Data.toJson]
  rw [read?, length, written, read]
  rfl

end Json
end GuideMarkup
