import GuideMarkup.Data.Basic

/-!
# Data/Way — ways into plain values

    {handlers: {file: {level: DEBUG}}}      handlers . file . level   ──▸   DEBUG

A way is the row of steps from a value to a part of it.  `Data.addAt` puts a field into the objects
at the ends of several ways at once; `Data.part?_addAt` says what that does to one step.
-/

namespace GuideMarkup
namespace Data

/-! ## Steps and ways -/

/-- A step from a value to one of its parts. -/
inductive Step where
  | field (key : Key)
  | item (index : Nat)
  /-- To the first part of a pair. -/
  | first
  /-- To the second part of a pair. -/
  | second
deriving Repr

namespace Step

/-- What makes two steps the same. -/
def identity : Step → Key.Identity ⊕ Nat ⊕ Bool
  | field key => .inl key.identity
  | item index => .inr (.inl index)
  | first => .inr (.inr true)
  | second => .inr (.inr false)

end Step

instance : BEq Step := ⟨fun s t => decide (s.identity = t.identity)⟩

theorem Step.beq_iff (s t : Step) : (s == t) = true ↔ s.identity = t.identity :=
  decide_eq_true_iff

instance : EquivBEq Step where
  rfl := (Step.beq_iff _ _).2 rfl
  symm h := (Step.beq_iff _ _).2 ((Step.beq_iff _ _).1 h).symm
  trans h k := (Step.beq_iff _ _).2 (((Step.beq_iff _ _).1 h).trans ((Step.beq_iff _ _).1 k))

theorem Step.field_beq_field (k l : Key) : (Step.field k == Step.field l) = (k == l) := by
  rw [Bool.eq_iff_iff, Step.beq_iff, Key.beq_iff]
  simp [Step.identity]

/-- The way from a value to a part of it. -/
abbrev Way := List Step

namespace Way

/-- The ways that begin with a step, from there on. -/
def after (step : Step) (ways : List Way) : List Way :=
  ways.filterMap fun
    | [] => none
    | s :: way => if s == step then some way else none

/-- The ways part before either of them ends. -/
def apart : Way → Way → Bool
  | s :: v, t :: w => !(s == t) || apart v w
  | _, _ => false

theorem mem_after {step : Step} {way : Way} {ways : List Way} :
    way ∈ after step ways ↔ ∃ s, (s == step) = true ∧ s :: way ∈ ways := by
  simp only [after, List.mem_filterMap]
  constructor
  · rintro ⟨_ | ⟨s, rest⟩, member, found⟩
    · exact absurd found nofun
    · by_cases same : (s == step) = true
      · simp only [same, ↓reduceIte, Option.some.injEq] at found
        exact ⟨s, same, found ▸ member⟩
      · simp [same] at found
  · rintro ⟨s, same, member⟩
    exact ⟨s :: way, member, by simp [same]⟩

theorem after_congr {s t : Step} (same : (s == t) = true) (ways : List Way) :
    after s ways = after t ways := by
  have alike : ∀ u : Step, (u == s) = (u == t) := fun u => BEq.congr_right same
  simp only [after, alike]

theorem isPrefixOf_of_apart {v w : Way} (parts : apart w v = true) : v.isPrefixOf w = false := by
  induction w generalizing v with
  | nil => exact absurd parts nofun
  | cons s w ih =>
    cases v with
    | nil => exact absurd parts nofun
    | cons t v =>
      rw [apart, Bool.or_eq_true, Bool.not_eq_true'] at parts
      rw [List.isPrefixOf_cons_cons, BEq.comm, Bool.and_eq_false_imp]
      rcases parts with other | parts
      · exact fun same => absurd same (by simp [other])
      · exact fun _ => ih parts

/-- A way without a step does not begin with one that ends in this step. -/
theorem isPrefixOf_append_singleton {step : Step} (v : Way) {w : Way}
    (others : ∀ s ∈ w, (s == step) = false) : (v ++ [step]).isPrefixOf w = false := by
  induction w generalizing v with
  | nil => cases v <;> rfl
  | cons s w ih =>
    obtain ⟨other, others⟩ := List.forall_mem_cons.mp others
    cases v with
    | nil => rw [List.nil_append, List.isPrefixOf_cons_cons, BEq.comm, other, Bool.false_and]
    | cons t v => rw [List.cons_append, List.isPrefixOf_cons_cons, ih v others, Bool.and_false]

end Way

/-! ## Parts -/

/-- The part of a value one step on. -/
def part? : Data → Step → Option Data
  | .object fields, .field key => fields.lookup key
  | .list items, .item index => items[index]?
  | .pair first _, .first => some first
  | .pair _ second, .second => some second
  | _, _ => none

/-- **The part of a value at the end of a way.** -/
def at? (value : Data) : Way → Option Data
  | [] => some value
  | step :: way => (value.part? step).bind fun part => part.at? way

theorem at?_singleton (value : Data) (step : Step) : value.at? [step] = value.part? step :=
  Option.bind_fun_some _

theorem at?_append (value : Data) (v w : Way) :
    value.at? (v ++ w) = (value.at? v).bind fun part => part.at? w := by
  induction v generalizing value with
  | nil => rfl
  | cons step v ih =>
    rw [List.cons_append, at?, at?, Option.bind_assoc]
    exact congrArg _ (funext fun part => ih part)

/-! ## Likeness -/

mutual

/-- **The values are alike as far as they are written out**: a list or an object inside itself may
be any. -/
def areAlike : Data → Data → Bool
  | .inner _, _ | _, .inner _ | .null, .null => true
  | .bool a, .bool b => a == b
  | .int m, .int n => m == n
  | .real x, .real y => decide (x = y)
  | .text s, .text t => s == t
  | .bytes s, .bytes t => s == t
  | .moment m, .moment n => decide (m = n)
  | .pair a b, .pair c d => areAlike a c && areAlike b d
  | .set members, .set others => members == others
  | .list items, .list others => areAlikeItems items others
  | .object fields, .object others => areAlikeFields fields others
  | _, _ => false

/-- The items are alike one by one. -/
def areAlikeItems : List Data → List Data → Bool
  | [], [] => true
  | item :: rest, other :: others => areAlike item other && areAlikeItems rest others
  | _, _ => false

/-- The fields are alike one by one. -/
def areAlikeFields : List (Key × Data) → List (Key × Data) → Bool
  | [], [] => true
  | (name, value) :: rest, (name', other) :: others =>
    name == name' && areAlike value other && areAlikeFields rest others
  | _, _ => false

end

/-! ## Additions -/

section Add

variable (key : Key) (content : Data)

mutual

/-- **The value with a field put into the objects at the ends of the ways.** -/
def addAt (ways : List Way) : Data → Data
  | .object fields =>
    let changed := addInFields ways fields
    .object (if ways.any List.isEmpty then Table.insert changed key content else changed)
  | .list items => .list (addInItems ways 0 items)
  | .pair first second =>
    .pair (addAt (Way.after .first ways) first) (addAt (Way.after .second ways) second)
  | value => value

/-- The fields of an object with the additions inside them. -/
def addInFields (ways : List Way) : List (Key × Data) → List (Key × Data)
  | [] => []
  | (name, value) :: rest =>
    (name, addAt (Way.after (.field name) ways) value) :: addInFields ways rest

/-- The items of a list, of which the first has the given index, with the additions inside them. -/
def addInItems (ways : List Way) (index : Nat) : List Data → List Data
  | [] => []
  | item :: rest =>
    addAt (Way.after (.item index) ways) item :: addInItems ways (index + 1) rest

end

variable {key content}

theorem lookup_addInFields (ways : List Way) (name : Key) (fields : List (Key × Data)) :
    List.lookup name (addInFields key content ways fields) =
      (List.lookup name fields).map (addAt key content (Way.after (.field name) ways)) := by
  induction fields with
  | nil => rfl
  | cons entry rest ih =>
    obtain ⟨other, value⟩ := entry
    rw [addInFields, List.lookup_cons, List.lookup_cons]
    by_cases same : (name == other) = true
    · have steps : (Step.field other == Step.field name) = true := by
        rw [Step.field_beq_field]
        exact BEq.symm same
      simp only [same, Option.map_some, Way.after_congr steps]
    · simpa only [same] using ih

theorem getElem?_addInItems (ways : List Way) (place : Nat) (items : List Data) :
    ∀ index, (addInItems key content ways index items)[place]? =
      items[place]?.map (addAt key content (Way.after (.item (index + place)) ways)) := by
  induction items generalizing place with
  | nil => exact fun _ => rfl
  | cons item rest ih =>
    intro index
    rw [addInItems]
    cases place with
    | zero => rfl
    | succ place =>
      rw [List.getElem?_cons_succ, List.getElem?_cons_succ, ih place (index + 1)]
      congr 4
      omega

/-- **What additions do to a part**: it is the new field of an object where a way ends, and
otherwise the old part with the additions inside it. -/
theorem part?_addAt (ways : List Way) (value : Data) (step : Step) :
    (addAt key content ways value).part? step =
      match value with
      | .object _ =>
        if ways.any List.isEmpty && step == .field key then some content
        else (value.part? step).map (addAt key content (Way.after step ways))
      | _ => (value.part? step).map (addAt key content (Way.after step ways)) := by
  cases value with
  | object fields =>
    simp only [addAt]
    cases step with
    | field name =>
      simp only [part?, Step.field_beq_field]
      cases ways.any List.isEmpty with
      | false => simpa using lookup_addInFields ways name fields
      | true =>
        simp only [↓reduceIte, Table.lookup_insert, Bool.true_and]
        rw [lookup_addInFields]
    | item index => simp [part?, show (Step.item index == Step.field key) = false from rfl]
    | first => simp [part?, show (Step.first == Step.field key) = false from rfl]
    | second => simp [part?, show (Step.second == Step.field key) = false from rfl]
  | list items =>
    simp only [addAt]
    cases step with
    | item place => simpa [part?] using getElem?_addInItems ways place items 0
    | _ => rfl
  | pair first second =>
    simp only [addAt]
    cases step <;> rfl
  | _ => cases step <;> rfl

/-! ## What additions leave, and what they make -/

mutual

theorem addAt_nil : ∀ value : Data, addAt key content [] value = value
  | .object fields => by rw [addAt, addInFields_nil fields]; rfl
  | .list items => by rw [addAt, addInItems_nil 0 items]
  | .pair first second => by
    rw [addAt, show Way.after _ [] = [] from rfl, addAt_nil first,
      show Way.after _ [] = [] from rfl, addAt_nil second]
  | .null | .bool _ | .int _ | .real _ | .text _ | .bytes _ | .moment _ | .set _ | .inner _ => rfl

theorem addInFields_nil : ∀ fields : List (Key × Data), addInFields key content [] fields = fields
  | [] => rfl
  | (name, value) :: rest => by
    rw [addInFields, show Way.after _ [] = [] from rfl, addAt_nil value, addInFields_nil rest]

theorem addInItems_nil (index : Nat) :
    ∀ items : List Data, addInItems key content [] index items = items
  | [] => rfl
  | item :: rest => by
    rw [addInItems, show Way.after _ [] = [] from rfl, addAt_nil item,
      addInItems_nil (index + 1) rest]

end

theorem part?_addAt_of_ne {ways : List Way} {step : Step}
    (other : (ways.any List.isEmpty && step == .field key) = false) (value : Data) :
    (addAt key content ways value).part? step =
      (value.part? step).map (addAt key content (Way.after step ways)) := by
  rw [part?_addAt, other]
  cases value <;> rfl

/-- Where no new field stands on a way, its first step leads to the old part. -/
theorem part?_addAt_of_aside {ways : List Way} {step : Step} {way : Way}
    (aside : ∀ other ∈ ways, (other ++ [Step.field key]).isPrefixOf (step :: way) = false)
    (value : Data) : (addAt key content ways value).part? step =
      (value.part? step).map (addAt key content (Way.after step ways)) := by
  refine part?_addAt_of_ne ?_ value
  rw [Bool.and_eq_false_imp]
  intro ends
  obtain ⟨_ | _, member, isNil⟩ := List.any_eq_true.mp ends
  · have first := aside [] member
    rwa [List.nil_append, List.isPrefixOf_cons_cons, List.isPrefixOf_nil_left, Bool.and_true,
      BEq.comm] at first
  · exact absurd isNil nofun

/-- **Nothing changes anywhere else**: where the new fields part from the way, it leads to what it
led to. -/
theorem at?_addAt_of_apart {way : Way} : ∀ {ways : List Way} {value : Data},
    (∀ other ∈ ways, way.apart (other ++ [.field key]) = true) →
      (addAt key content ways value).at? way = value.at? way := by
  induction way with
  | nil =>
    intro ways value apart
    -- The empty way parts from no other one, so there is none.
    obtain rfl : ways = [] := List.eq_nil_iff_forall_not_mem.mpr fun other member =>
      absurd (apart other member) nofun
    rw [addAt_nil]
  | cons step way ih =>
    intro ways value apart
    rw [at?, at?, part?_addAt_of_aside fun other member => Way.isPrefixOf_of_apart (apart _ member),
      Option.bind_map]
    refine congrArg _ (funext fun part => ih fun rest member => ?_)
    obtain ⟨s, same, member⟩ := Way.mem_after.mp member
    simpa [Way.apart, BEq.symm same] using apart _ member

theorem eq_of_part?_addAt {ways : List Way} {value part : Data} {step : Step}
    (isPart : (addAt key content ways value).part? step = some part) : part = content ∨
      ∃ old, value.part? step = some old ∧ addAt key content (Way.after step ways) old = part := by
  by_cases new : (ways.any List.isEmpty && step == .field key) = true
  · rw [part?_addAt, new] at isPart
    cases value with
    | object fields => exact .inl (Option.some.inj isPart).symm
    | _ => exact .inr (Option.map_eq_some_iff.mp isPart)
  · rw [part?_addAt_of_ne (Bool.eq_false_iff.mpr new)] at isPart
    exact .inr (Option.map_eq_some_iff.mp isPart)

/-- An object at the end of one of the ways has the new field, if that is a text. -/
theorem lookup_of_at?_addAt {text : String} {way : Way} :
    ∀ {ways : List Way} {value : Data} {fields : List (Key × Data)}, way ∈ ways →
      (addAt key (.text text) ways value).at? way = some (.object fields) →
        fields.lookup key = some (.text text) := by
  induction way with
  | nil =>
    intro ways value fields member found
    have ends : ways.any List.isEmpty = true := List.any_eq_true.mpr ⟨[], member, rfl⟩
    cases value with
    | object old =>
      rw [addAt, if_pos ends, at?, Option.some.injEq, object.injEq] at found
      rw [← found, Table.lookup_insert, if_pos BEq.rfl]
    | _ => cases found
  | cons step way ih =>
    intro ways value fields member found
    rw [at?, Option.bind_eq_some_iff] at found
    obtain ⟨part, isPart, found⟩ := found
    rcases eq_of_part?_addAt isPart with rfl | ⟨old, -, rfl⟩
    · -- No object is inside a text.
      rcases way with _ | ⟨other, way⟩ <;> cases found
    · exact ih (Way.mem_after.mpr ⟨step, BEq.rfl, member⟩) found

/-- Objects stay objects, unless one of the new fields stands on the way to them. -/
theorem exists_at?_addAt {way : Way} :
    ∀ {ways : List Way} {value : Data} {fields : List (Key × Data)},
      (∀ other ∈ ways, (other ++ [Step.field key]).isPrefixOf way = false) →
        value.at? way = some (.object fields) →
          ∃ fields', (addAt key content ways value).at? way = some (.object fields') := by
  induction way with
  | nil =>
    rintro ways value fields - found
    obtain rfl := Option.some.inj found
    exact ⟨_, rfl⟩
  | cons step way ih =>
    intro ways value fields aside found
    rw [at?, Option.bind_eq_some_iff] at found
    obtain ⟨part, isPart, found⟩ := found
    rw [at?, part?_addAt_of_aside aside, isPart]
    refine ih (fun rest member => ?_) found
    obtain ⟨s, same, member⟩ := Way.mem_after.mp member
    have inside := aside _ member
    rwa [List.cons_append, List.isPrefixOf_cons_cons, same, Bool.true_and] at inside

/-- **Where a way to an object ends, the new field stands**, unless another one is on this way. -/
theorem at?_addAt_append {text : String} {ways : List Way} {way : Way} {value : Data}
    {fields : List (Key × Data)} (member : way ∈ ways)
    (aside : ∀ other ∈ ways, (other ++ [Step.field key]).isPrefixOf way = false)
    (found : value.at? way = some (.object fields)) :
    (addAt key (.text text) ways value).at? (way ++ [.field key]) = some (.text text) := by
  obtain ⟨fields', found'⟩ := exists_at?_addAt aside found
  rw [at?_append, found', Option.bind_some, at?_singleton]
  exact lookup_of_at?_addAt member found'

end Add

end Data
end GuideMarkup
