import GuideMarkup.Proofs.RoundTrip

/-!
# Proofs/Preceding — what may stand in front of a line of JSON

    front ++ "{\n  …\n}" ++ "\n"   is read   ⇔   the front is blank

An object on several lines opens with a brace and a line feed, and no part of JSON has these two in
it but an object: so whatever is read from a text that the object ends is either read before the
object, and leaves all of it over, or has the whole object in it.  In the second case nothing is
left but blanks, and no list and no other object could be closed.
-/

namespace GuideMarkup
namespace Json

/-! ## Depth -/

/-- What is read with one depth is also read with another one. -/
structure Deepens (depth more : Nat) : Prop where
  value : ∀ {s result}, value? depth s = some result → value? more s = some result
  items : ∀ {s result}, items? depth s = some result → items? more s = some result
  fields : ∀ {s result}, fields? depth s = some result → fields? more s = some result

namespace Deepens

variable {depth more : Nat}

theorem value_succ (deepens : Deepens depth more) {s : List Char} {result : Data × List Char}
    (reads : value? (depth + 1) s = some result) : value? (more + 1) s = some result := by
  rw [value?] at reads ⊢
  split at reads
  case h_2 | h_3 =>
    dsimp only
    split at reads
    · exact reads
    · obtain ⟨⟨inside, rest⟩, read, rfl⟩ := Option.map_eq_some_iff.mp reads
      first
        | rw [deepens.items read, Option.map_some]
        | rw [deepens.fields read, Option.map_some]
  all_goals exact reads

theorem items_succ (deepens : Deepens depth more) {s : List Char}
    {result : List Data × List Char} (reads : items? (depth + 1) s = some result) :
    items? (more + 1) s = some result := by
  rw [items?] at reads ⊢
  obtain ⟨⟨item, rest⟩, read, reads⟩ := Option.bind_eq_some_iff.mp reads
  rw [deepens.value read, Option.bind_eq_bind, Option.bind_some]
  dsimp only at reads ⊢
  split at reads
  · obtain ⟨⟨others, rest⟩, read, reads⟩ := Option.bind_eq_some_iff.mp reads
    rw [deepens.items read]
    exact reads
  all_goals exact reads

theorem fields_succ (deepens : Deepens depth more) {s : List Char} {result : Fields × List Char}
    (reads : fields? (depth + 1) s = some result) : fields? (more + 1) s = some result := by
  rw [fields?] at reads ⊢
  obtain ⟨⟨name, rest⟩, named, reads⟩ := Option.bind_eq_some_iff.mp reads
  obtain ⟨⟨value, rest⟩, read, reads⟩ := Option.bind_eq_some_iff.mp reads
  rw [named, Option.bind_eq_bind, Option.bind_some]
  dsimp only
  rw [deepens.value read, Option.bind_eq_bind, Option.bind_some]
  dsimp only at reads ⊢
  split at reads
  · obtain ⟨⟨others, rest⟩, read, reads⟩ := Option.bind_eq_some_iff.mp reads
    rw [deepens.fields read]
    exact reads
  all_goals exact reads

/-- **What is read is also read with more depth.** -/
theorem of_le : ∀ {depth more : Nat}, depth ≤ more → Deepens depth more
  | 0, _, _ => by constructor <;> rintro s result ⟨⟩
  | _ + 1, _ + 1, le =>
    have deepens := of_le (Nat.le_of_succ_le_succ le)
    ⟨deepens.value_succ, deepens.items_succ, deepens.fields_succ⟩

end Deepens

/-! ## What stops in front of an object -/

/-- The text opens an object on several lines. -/
def Opens (object : List Char) : Prop :=
  ∃ rest, object = '\x7b' :: '\n' :: rest

variable {object : List Char}

namespace Opens

theorem ne_nil (opens : Opens object) : object ≠ [] := by
  obtain ⟨rest, rfl⟩ := opens
  exact List.cons_ne_nil _ _

/-- No other character can be the first one of the object. -/
theorem suffix_of_cons (opens : Opens object) {c : Char} {s : List Char}
    (ends : object <:+ c :: s) (other : c ≠ '\x7b') : object <:+ s := by
  obtain ⟨rest, rfl⟩ := opens
  rcases List.suffix_cons_iff.mp ends with same | inside
  · exact absurd (List.cons.inj same).1.symm other
  · exact inside

theorem suffix_dropWhile (opens : Opens object) {p : Char → Bool} (stops : p '\x7b' = false)
    {s : List Char} (ends : object <:+ s) : object <:+ s.dropWhile p := by
  induction s with
  | nil => exact ends
  | cons c s ih =>
    by_cases goes : p c = true
    · rw [List.dropWhile_cons_of_pos goes]
      refine ih (opens.suffix_of_cons ends ?_)
      rintro rfl
      exact Bool.false_ne_true (stops.symm.trans goes)
    · rwa [List.dropWhile_cons_of_neg goes]

theorem suffix_skip (opens : Opens object) {s : List Char} (ends : object <:+ s) :
    object <:+ skip s :=
  opens.suffix_dropWhile rfl ends

/-- The object does not begin before another mark behind some blanks. -/
theorem suffix_behind (opens : Opens object) {s rest : List Char} {mark : Char}
    (next : skip s = mark :: rest) (other : mark ≠ '\x7b') (ends : object <:+ s) :
    object <:+ rest := by
  have inside := opens.suffix_skip ends
  rw [next] at inside
  exact opens.suffix_of_cons inside other

/-! ### Texts -/

theorem isHexDigit_of_quad? {digits : List Char} {n : Nat} (known : quad? digits = some n) :
    ∀ c ∈ digits, c ≠ '\x7b' := by
  rw [quad?] at known
  split at known
  · rename_i hex
    rintro c member rfl
    exact absurd (List.all_eq_true.mp hex _ member) (by decide)
  · cases known

/-- **No text has the object in it**: there is no line feed within quotes. -/
theorem suffix_units? (opens : Opens object) {s rest : List Char} {units : List Nat}
    (reads : units? s = some (units, rest)) (ends : object <:+ s) : object <:+ rest := by
  fun_induction units? s generalizing units with
  | case1 => cases reads
  | case2 s =>
    obtain ⟨⟩ := reads
    exact opens.suffix_of_cons ends (by decide)
  | case3 a b c d s ih =>
    obtain ⟨unit, known, reads⟩ := Option.bind_eq_some_iff.mp reads
    obtain ⟨⟨others, left⟩, read, ⟨⟩⟩ := Option.bind_eq_some_iff.mp reads
    refine ih read ?_
    have hex := isHexDigit_of_quad? known
    simp only [List.forall_mem_cons] at hex
    obtain ⟨a, b, c, d, -⟩ := hex
    refine opens.suffix_of_cons (opens.suffix_of_cons (opens.suffix_of_cons
      (opens.suffix_of_cons ?_ a) b) c) d
    exact opens.suffix_of_cons (opens.suffix_of_cons ends (by decide)) (by decide)
  | case4 letter s _ ih =>
    obtain ⟨c, known, reads⟩ := Option.bind_eq_some_iff.mp reads
    obtain ⟨⟨others, left⟩, read, ⟨⟩⟩ := Option.bind_eq_some_iff.mp reads
    refine ih read (opens.suffix_of_cons (opens.suffix_of_cons ends (by decide)) ?_)
    rintro rfl
    have unknown : letters.lookup '\x7b' = none := by decide
    cases unknown.symm.trans known
  | case5 => cases reads
  | case6 c s _ _ _ _ ih =>
    obtain ⟨⟨others, left⟩, read, ⟨⟩⟩ := Option.bind_eq_some_iff.mp reads
    rcases List.suffix_cons_iff.mp ends with same | inside
    · -- The line feed behind the brace cannot stand within quotes.
      obtain ⟨behind, rfl⟩ := opens
      obtain ⟨-, rfl⟩ := List.cons.inj same
      exact absurd read (by simp [units?])
    · exact ih read inside

theorem suffix_string? (opens : Opens object) {s rest : List Char} {text : String}
    (reads : string? s = some (text, rest)) (ends : object <:+ s) : object <:+ rest := by
  obtain ⟨⟨units, left⟩, read, reads⟩ := Option.bind_eq_some_iff.mp reads
  obtain ⟨characters, -, ⟨⟩⟩ := Option.bind_eq_some_iff.mp reads
  exact opens.suffix_units? read ends

/-! ### Single values -/

theorem suffix_digits? (opens : Opens object) {s rest digits : List Char}
    (reads : digits? s = some (digits, rest)) (ends : object <:+ s) : object <:+ rest := by
  rw [digits?] at reads
  split at reads
  · cases reads
  · obtain ⟨⟩ := reads
    exact opens.suffix_dropWhile (by decide) ends

theorem suffix_whole? (opens : Opens object) {s rest digits : List Char}
    (reads : whole? s = some (digits, rest)) (ends : object <:+ s) : object <:+ rest :=
  opens.suffix_digits? (Option.filter_eq_some_iff.mp reads).1 ends

theorem suffix_fraction? (opens : Opens object) {s rest digits : List Char}
    (reads : fraction? s = some (digits, rest)) (ends : object <:+ s) : object <:+ rest := by
  rw [fraction?.eq_def] at reads
  split at reads
  · exact opens.suffix_digits? reads (opens.suffix_of_cons ends (by decide))
  · obtain ⟨⟩ := reads
    exact ends

theorem suffix_power? (opens : Opens object) {s rest : List Char} {power : Int}
    (reads : power? s = some (power, rest)) (ends : object <:+ s) : object <:+ rest := by
  rw [power?.eq_def] at reads
  split at reads
  all_goals
    obtain ⟨⟨digits, left⟩, read, ⟨⟩⟩ := Option.map_eq_some_iff.mp reads
  · exact opens.suffix_digits? read (opens.suffix_of_cons ends (by decide))
  · exact opens.suffix_digits? read (opens.suffix_of_cons ends (by decide))
  · exact opens.suffix_digits? read ends

theorem suffix_exponent? (opens : Opens object) {s rest : List Char} {exponent : Option Int}
    (reads : exponent? s = some (exponent, rest)) (ends : object <:+ s) : object <:+ rest := by
  rw [exponent?.eq_def] at reads
  split at reads
  · obtain ⟨⟨power, left⟩, read, ⟨⟩⟩ := Option.map_eq_some_iff.mp reads
    exact opens.suffix_power? read (opens.suffix_of_cons ends (by decide))
  · obtain ⟨⟨power, left⟩, read, ⟨⟩⟩ := Option.map_eq_some_iff.mp reads
    exact opens.suffix_power? read (opens.suffix_of_cons ends (by decide))
  · obtain ⟨⟩ := reads
    exact ends

theorem suffix_unsigned? (opens : Opens object) {negative : Bool} {s rest : List Char}
    {value : Data} (reads : unsigned? negative s = some (value, rest)) (ends : object <:+ s) :
    object <:+ rest := by
  obtain ⟨⟨whole, behindWhole⟩, first, reads⟩ := Option.bind_eq_some_iff.mp reads
  obtain ⟨⟨fraction, behindFraction⟩, second, reads⟩ := Option.bind_eq_some_iff.mp reads
  obtain ⟨⟨exponent, behindExponent⟩, third, reads⟩ := Option.bind_eq_some_iff.mp reads
  have left : object <:+ behindExponent :=
    opens.suffix_exponent? third (opens.suffix_fraction? second (opens.suffix_whole? first ends))
  dsimp only at reads
  split at reads
  all_goals
    obtain ⟨⟩ := reads
    exact left

theorem suffix_number? (opens : Opens object) {s rest : List Char} {value : Data}
    (reads : number? s = some (value, rest)) (ends : object <:+ s) : object <:+ rest := by
  rw [number?.eq_def] at reads
  split at reads
  · exact opens.suffix_unsigned? reads (opens.suffix_of_cons ends (by decide))
  · exact opens.suffix_unsigned? reads ends

/-- The object does not begin inside a word. -/
theorem suffix_of_append (opens : Opens object) {word s : List Char} (other : '\x7b' ∉ word)
    (ends : object <:+ word ++ s) : object <:+ s := by
  induction word with
  | nil => exact ends
  | cons c word ih =>
    obtain ⟨first, rest⟩ := not_or.mp (mt List.mem_cons.mpr other)
    exact ih rest (opens.suffix_of_cons ends (Ne.symm first))

theorem suffix_single? (opens : Opens object) {s rest : List Char} {value : Data}
    (reads : single? s = some (value, rest)) (ends : object <:+ s) : object <:+ rest := by
  rw [single?.eq_def] at reads
  split at reads
  · obtain ⟨⟩ := reads
    exact @suffix_of_append _ opens "null".toList _ (by decide) ends
  · obtain ⟨⟩ := reads
    exact @suffix_of_append _ opens "true".toList _ (by decide) ends
  · obtain ⟨⟩ := reads
    exact @suffix_of_append _ opens "false".toList _ (by decide) ends
  · exact opens.suffix_number? reads ends

theorem suffix_name? (opens : Opens object) {s rest : List Char} {name : String}
    (reads : name? s = some (name, rest)) (ends : object <:+ s) : object <:+ rest := by
  rw [name?] at reads
  split at reads
  · rename_i quoted quote
    obtain ⟨⟨text, left⟩, read, reads⟩ := Option.bind_eq_some_iff.mp reads
    have behind := opens.suffix_string? read (opens.suffix_behind quote (by decide) ends)
    dsimp only at reads
    split at reads
    · obtain ⟨⟩ := reads
      exact opens.suffix_behind ‹_› (by decide) behind
    · cases reads
  · cases reads

end Opens

/-! ## Values -/

/-- The object is one value up to its end: wherever it is read, nothing but blanks is left. -/
structure Whole (object : List Char) : Prop where
  opens : Opens object
  blank : ∀ depth value rest, value? depth object = some (value, rest) → skip rest = []

/-- **What is read is read before the object, or it is the object** behind some blanks; items and
fields are always read before it, as they go on with a mark. -/
structure Precedes (object : List Char) (depth : Nat) : Prop where
  value : ∀ {s value rest}, value? depth s = some (value, rest) → object <:+ s →
    object <:+ rest ∨ skip s = object ∧ skip rest = []
  items : ∀ {s items rest}, items? depth s = some (items, rest) → object <:+ s → object <:+ rest
  fields : ∀ {s fields rest}, fields? depth s = some (fields, rest) → object <:+ s →
    object <:+ rest

namespace Precedes

variable {depth : Nat} {s rest : List Char}

theorem value_succ (precedes : Precedes object depth) (whole : Whole object) {value : Data}
    (reads : value? (depth + 1) s = some (value, rest)) (ends : object <:+ s) :
    object <:+ rest ∨ skip s = object ∧ skip rest = [] := by
  have opens := whole.opens
  have all := reads
  rw [value?] at reads
  split at reads
  · rename_i quoted quote
    obtain ⟨⟨text, left⟩, read, ⟨⟩⟩ := Option.map_eq_some_iff.mp reads
    exact .inl (opens.suffix_string? read (opens.suffix_behind quote (by decide) ends))
  · rename_i listed bracket
    have behind := opens.suffix_behind bracket (by decide) ends
    split at reads
    · obtain ⟨⟩ := reads
      exact .inl (opens.suffix_behind ‹_› (by decide) behind)
    · obtain ⟨⟨found, left⟩, read, ⟨⟩⟩ := Option.map_eq_some_iff.mp reads
      exact .inl (precedes.items read (opens.suffix_skip behind))
  · rename_i named brace
    have inside := opens.suffix_skip ends
    rw [brace] at inside
    rcases List.suffix_cons_iff.mp inside with same | inside
    · -- The brace is that of the object, so that the whole of it is read.
      have isObject : skip s = object := brace.trans same.symm
      rw [← value?_skip, isObject] at all
      exact .inr ⟨isObject, whole.blank _ _ _ all⟩
    · split at reads
      · obtain ⟨⟩ := reads
        exact .inl (opens.suffix_behind ‹_› (by decide) inside)
      · obtain ⟨⟨found, left⟩, read, ⟨⟩⟩ := Option.map_eq_some_iff.mp reads
        exact .inl (precedes.fields read (opens.suffix_skip inside))
  · exact .inl (opens.suffix_single? reads (opens.suffix_skip ends))

theorem items_succ (precedes : Precedes object depth) (opens : Opens object) {items : List Data}
    (reads : items? (depth + 1) s = some (items, rest)) (ends : object <:+ s) :
    object <:+ rest := by
  rw [items?] at reads
  obtain ⟨⟨item, left⟩, read, reads⟩ := Option.bind_eq_some_iff.mp reads
  dsimp only at reads
  rcases precedes.value read ends with behind | ⟨-, blank⟩
  · split at reads
    · rename_i comma
      obtain ⟨⟨others, left⟩, read, ⟨⟩⟩ := Option.bind_eq_some_iff.mp reads
      exact precedes.items read (opens.suffix_behind comma (by decide) behind)
    · obtain ⟨⟩ := reads
      exact opens.suffix_behind ‹_› (by decide) behind
    · cases reads
  · -- Behind the object there is no mark that would go on with a list.
    rw [blank] at reads
    cases reads

theorem fields_succ (precedes : Precedes object depth) (opens : Opens object) {fields : Fields}
    (reads : fields? (depth + 1) s = some (fields, rest)) (ends : object <:+ s) :
    object <:+ rest := by
  rw [fields?] at reads
  obtain ⟨⟨name, behindName⟩, named, reads⟩ := Option.bind_eq_some_iff.mp reads
  obtain ⟨⟨value, left⟩, read, reads⟩ := Option.bind_eq_some_iff.mp reads
  dsimp only at reads
  rcases precedes.value read (opens.suffix_name? named ends) with behind | ⟨-, blank⟩
  · split at reads
    · rename_i comma
      obtain ⟨⟨others, left⟩, read, ⟨⟩⟩ := Option.bind_eq_some_iff.mp reads
      exact precedes.fields read (opens.suffix_behind comma (by decide) behind)
    · obtain ⟨⟩ := reads
      exact opens.suffix_behind ‹_› (by decide) behind
    · cases reads
  · rw [blank] at reads
    cases reads

end Precedes

theorem Whole.precedes (whole : Whole object) : ∀ depth, Precedes object depth
  | 0 => by constructor <;> rintro s result rest ⟨⟩
  | depth + 1 =>
    have precedes := whole.precedes depth
    ⟨precedes.value_succ whole, precedes.items_succ whole.opens, precedes.fields_succ whole.opens⟩

/-! ## A line of JSON -/

section Lines

variable {field : Key × Data} {fields : Fields}

/-- An object with fields is read as it is written with a line feed behind it, at any depth that is
enough. -/
theorem value?_write (isJson : (Data.object (field :: fields)).IsJson) :
    value? ((write 0 (.object (field :: fields))).length + 1)
      (write 0 (.object (field :: fields)) ++ ['\n']) = some (.object (field :: fields), ['\n']) :=
  reads_of_isJson isJson 0 _ ['\n'] (startsWithout_cons.mpr rfl) (Nat.le_refl _)

theorem whole_write (isJson : (Data.object (field :: fields)).IsJson) :
    Whole (write 0 (.object (field :: fields)) ++ ['\n']) where
  opens := ⟨_, rfl⟩
  blank depth value rest reads := by
    have written := value?_write isJson
    generalize (write 0 (.object (field :: fields))).length + 1 = enough at written
    have here := (Deepens.of_le (Nat.le_max_left depth enough)).value reads
    have there := (Deepens.of_le (Nat.le_max_right depth enough)).value written
    obtain ⟨⟩ := here.symm.trans there
    rfl

theorem skip_append_of_blank {front : List Char} (blank : front.all isSpace = true)
    (s : List Char) : skip (front ++ s) = skip s :=
  List.dropWhile_append_of_pos (List.all_eq_true.mp blank)

/-- Behind blanks is the object only if everything in front of it is blank. -/
theorem blank_of_skip_append {front : List Char} (behind : skip (front ++ object) = object) :
    front.all isSpace = true := by
  induction front with
  | nil => rfl
  | cons c front ih =>
    by_cases space : isSpace c = true
    · rw [List.cons_append, skip, List.dropWhile_cons_of_pos space] at behind
      rw [List.all_cons, space, ih behind, Bool.true_and]
    · rw [List.cons_append, skip_cons (Bool.eq_false_iff.mpr space)] at behind
      have longer := congrArg List.length behind
      simp only [List.length_cons, List.length_append] at longer
      omega

/-- **Nothing but blanks may stand in front of a line of JSON** that is an object on several
lines. -/
theorem read?_append_toJson (isJson : (Data.object (field :: fields)).IsJson) (front : String) :
    read? (front ++ ((Data.object (field :: fields)).toJson ++ "\n")) =
      if front.toList.all isSpace then some (.object (field :: fields)) else none := by
  have whole := whole_write isJson
  have written : (front ++ ((Data.object (field :: fields)).toJson ++ "\n")).toList =
      front.toList ++ (write 0 (.object (field :: fields)) ++ ['\n']) := by
    simp [Data.toJson]
  have enough : (write 0 (.object (field :: fields))).length + 1 ≤
      (front ++ ((Data.object (field :: fields)).toJson ++ "\n")).length := by
    rw [← String.length_toList, written, List.length_append, List.length_append]
    exact Nat.le_add_left _ _
  rw [read?, written]
  split_ifs with blank
  · have read := (Deepens.of_le enough).value (value?_write isJson)
    rw [← value?_skip, ← skip_append_of_blank blank, value?_skip] at read
    rw [read]
    rfl
  · cases read : value? _ _ with
    | none => rfl
    | some result =>
      obtain ⟨value, rest⟩ := result
      have ends := List.suffix_append front.toList
        (write 0 (.object (field :: fields)) ++ ['\n'])
      rcases (whole.precedes _).value read ends with behind | ⟨isObject, -⟩
      · have left : skip rest ≠ [] := fun none =>
          whole.opens.ne_nil (List.suffix_nil.mp (none ▸ whole.opens.suffix_skip behind))
        exact if_neg left
      · exact absurd (blank_of_skip_append isObject) blank

end Lines

end Json
end GuideMarkup
