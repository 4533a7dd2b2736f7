import GuideMarkup.Double.Notation
import GuideMarkup.Moment
import GuideMarkup.Numeral
import GuideMarkup.Text.Quoted

/-!
# Data/Basic — plain values: what configuration files hold and what trees are written as

A value is null, a truth value, an integer, a text, a list or an object; files may also hold numbers
of double precision, moments, bytes, pairs and sets.  The fields of an object are called by texts or
by other single values (`Key`); they keep their order, and a field that is set again keeps its
place.  `Data.entries` says which fields a value contributes when it overrides an object.
-/

namespace GuideMarkup

/-! ## Tables -/

/-- A table: keys with their values, in the order of their first insertion. -/
abbrev Table (κ α : Type) := List (κ × α)

namespace Table

variable {κ α : Type} [BEq κ]

/-- The table with the value at the key: in its old place, or at the end. -/
def insert (table : Table κ α) (key : κ) (value : α) : Table κ α :=
  match table with
  | [] => [(key, value)]
  | (k, v) :: rest => if k == key then (k, value) :: rest else (k, v) :: insert rest key value

/-- The table with all entries of another one. -/
def update (table entries : Table κ α) : Table κ α :=
  entries.foldl (fun t (key, value) => t.insert key value) table

/-- The table that holds the given entries; of two entries with one key the later wins. -/
def ofEntries (entries : List (κ × α)) : Table κ α :=
  update [] entries

theorem lookup_insert [EquivBEq κ] (table : Table κ α) (key k : κ) (value : α) :
    List.lookup k (table.insert key value) =
      if k == key then some value else List.lookup k table := by
  induction table with
  | nil =>
    simp only [insert, List.lookup_cons, List.lookup_nil]
    cases k == key <;> rfl
  | cons entry rest ih =>
    obtain ⟨k', v⟩ := entry
    rw [insert]
    by_cases h : k' == key
    · have hk : (k == k') = (k == key) := BEq.congr_right h
      simp only [h, ↓reduceIte, List.lookup_cons, hk]
      cases k == key <;> rfl
    · simp only [h, Bool.false_eq_true, ↓reduceIte, List.lookup_cons, ih]
      by_cases h2 : k == k'
      · have hk : (k == key) = (k' == key) := BEq.congr_left h2
        simp [h2, hk, h]
      · simp [h2]

end Table

/-! ## Keys -/

/-- A single value: what a field of an object may be called. -/
inductive Key where
  | null
  | bool (b : Bool)
  | int (n : Int)
  | real (x : Double)
  | text (s : String)
  | bytes (bs : List UInt8)
  | moment (m : Moment)
  | pair (first second : Key)
deriving Repr

instance : Coe String Key := ⟨Key.text⟩

namespace Key

/-- What makes two keys the same. -/
inductive Identity where
  | null
  | number (n : Int)
  | real (x : Double)
  | text (s : String)
  | bytes (bs : List UInt8)
  | moment (m : Moment)
  | instant (minute : Int) (second micro : Nat)
  | pair (first second : Identity)
deriving DecidableEq

/-- What makes a key the same as another one: a truth value is the same key as the number that it
counts as, a number the same as the equal integer, and a moment the same as the equal instant. -/
def identity : Key → Identity
  | .null => .null
  | .bool b => .number (if b then 1 else 0)
  | .int n => .number n
  | .real x =>
    match x.toInt? with
    | some n => .number n
    | none => .real x
  | .text s => .text s
  | .bytes bs => .bytes bs
  | .moment m =>
    match m.instant? with
    | some (minute, second, micro) => .instant minute second micro
    | none => .moment m
  | .pair first second => .pair first.identity second.identity

end Key

instance : BEq Key := ⟨fun a b => decide (a.identity = b.identity)⟩

theorem Key.beq_iff (a b : Key) : (a == b) = true ↔ a.identity = b.identity :=
  decide_eq_true_iff

instance : EquivBEq Key where
  rfl := (Key.beq_iff _ _).2 rfl
  symm h := (Key.beq_iff _ _).2 ((Key.beq_iff _ _).1 h).symm
  trans h k := (Key.beq_iff _ _).2 (((Key.beq_iff _ _).1 h).trans ((Key.beq_iff _ _).1 k))

theorem Key.text_beq_text (s t : String) : (Key.text s == Key.text t) = (s == t) := by
  rw [Bool.eq_iff_iff, Key.beq_iff, beq_iff_eq]
  simp [Key.identity]

/-! ## Values -/

/-- A plain value. -/
inductive Data where
  | null
  | bool (b : Bool)
  | int (n : Int)
  | real (x : Double)
  | text (s : String)
  | bytes (bs : List UInt8)
  | moment (m : Moment)
  | pair (first second : Data)
  /-- Members in the order of their first insertion. -/
  | set (members : List Key)
  | list (items : List Data)
  | object (fields : List (Key × Data))
  /-- A list or an object that stands inside itself. -/
  | inner (ofList : Bool)
deriving Inhabited, Repr

/-- The fields of an object. -/
abbrev Fields := Table Key Data

/-- The field of the given name. -/
def Fields.named? (fields : Fields) (name : String) : Option Data :=
  fields.lookup (Key.text name)

/-- Why a text stands for no value of the kind that it should. -/
inductive NoValue where
  /-- An escape names a character by a number that no character has. -/
  | noCharacter (code : Nat)
  /-- A number has no digits, or too many, or something else in it. -/
  | noNumber
  /-- A number is empty, but for its sign. -/
  | emptyNumber
  /-- A number is too large to be rounded. -/
  | tooLarge
  /-- A truth value is none of the words for one. -/
  | noTruth
  /-- A moment is not written like one. -/
  | noMoment
  /-- The calendar or the clock does not have a moment. -/
  | unrealMoment
  /-- A moment stands inside an object. -/
  | momentInside
deriving DecidableEq, Repr

/-- Why a value cannot be used in its place. -/
inductive Misfit where
  /-- The value should have members and has none. -/
  | noMembers
  /-- A member should be a pair and is none. -/
  | notPair
  /-- A list, a set or an object stands where only single values may stand. -/
  | notSingle
  /-- A value is of another shape than its reader can work on. -/
  | wrongShape
  /-- Bytes stand where only a text may stand. -/
  | notText
  /-- A text cannot be made, for an integer is too long to be written. -/
  | overlong
  /-- A value does not exist. -/
  | missing (why : NoValue)
deriving DecidableEq, Repr

namespace Data

/-- The value counts as nothing: null, false, zero, or empty. -/
def isVoid : Data → Bool
  | .null => true
  | .bool b => !b
  | .int n => n == 0
  | .real x => x.isZero
  | .text s => s.isEmpty
  | .bytes bs => bs.isEmpty
  | .set members => members.isEmpty
  | .list items => items.isEmpty
  | .object fields => fields.isEmpty
  | .moment _ | .pair .. | .inner _ => false

/-- The value, unless it counts as nothing. -/
def nonVoid? (value : Data) : Option Data :=
  if value.isVoid then none else some value

/-- The value is a list or an object that is not written out again. -/
def isInner : Data → Bool
  | .inner _ => true
  | _ => false

/-- The text that a value is, if it is one. -/
def text? : Data → Option String
  | .text s => some s
  | _ => none

/-- The name of a truth value. -/
def boolName (b : Bool) : String :=
  if b then "True" else "False"

/-- The texts with `, ` between them. -/
def commaSeparated : List (List Char) → List Char
  | [] => []
  | [s] => s
  | s :: rest => s ++ ',' :: ' ' :: commaSeparated rest

/-- Two texts as a pair. -/
def shownPair (first second : List Char) : List Char :=
  '(' :: commaSeparated [first, second] ++ [')']

end Data

/-! ## Display -/

namespace Key

/-- How a key is shown inside an object: a text stands between quotes. -/
def shown : Key → List Char
  | .null => "None".toList
  | .bool b => (Data.boolName b).toList
  | .int n => (toString n).toList
  | .real x => x.display
  | .text s => Quoted.encode s.toList
  | .bytes bs => Quoted.ofBytes bs
  | .moment m => m.shown
  | .pair first second => Data.shownPair first.shown second.shown

/-- The text of a key. -/
def display : Key → String
  | .text s => s
  | .moment m => String.ofList m.display
  | key => String.ofList key.shown

/-- No integer in the key is too long to be written. -/
def isWritable : Key → Bool
  | .int n => Numeral.isWritable n
  | .pair first second => first.isWritable && second.isWritable
  | _ => true

/-- The text of a key, if it can be written. -/
def display? (key : Key) : Option String :=
  if key.isWritable then some key.display else none

/-- The key as a value. -/
def toData : Key → Data
  | .null => .null
  | .bool b => .bool b
  | .int n => .int n
  | .real x => .real x
  | .text s => .text s
  | .bytes bs => .bytes bs
  | .moment m => .moment m
  | .pair first second => .pair first.toData second.toData

end Key

namespace Data

/-- How a set is shown. -/
def shownSet (members : List Key) : List Char :=
  if members.isEmpty then "set()".toList
  else '\x7b' :: commaSeparated (members.map Key.shown) ++ ['\x7d']

mutual

/-- How a value is shown inside another one: texts stand between quotes. -/
def shown : Data → List Char
  | .null => "None".toList
  | .bool b => (boolName b).toList
  | .int n => (toString n).toList
  | .real x => x.display
  | .text s => Quoted.encode s.toList
  | .bytes bs => Quoted.ofBytes bs
  | .moment m => m.shown
  | .pair first second => shownPair (shown first) (shown second)
  | .set members => shownSet members
  | .list items => '[' :: commaSeparated (shownItems items) ++ [']']
  | .object fields => '\x7b' :: commaSeparated (shownFields fields) ++ ['\x7d']
  | .inner ofList => (if ofList then "[...]" else "\x7b...\x7d").toList

/-- How the items of a list are shown. -/
def shownItems : List Data → List (List Char)
  | [] => []
  | item :: rest => shown item :: shownItems rest

/-- How the fields of an object are shown. -/
def shownFields : List (Key × Data) → List (List Char)
  | [] => []
  | (key, value) :: rest => (key.shown ++ ':' :: ' ' :: shown value) :: shownFields rest

end

/-- The text of a value: a text is itself, a moment is written as such, and everything else is
shown. -/
def display : Data → String
  | .text s => s
  | .moment m => String.ofList m.display
  | value => String.ofList value.shown

mutual

/-- No integer in the value is too long to be written. -/
def isWritable : Data → Bool
  | .int n => Numeral.isWritable n
  | .pair first second => isWritable first && isWritable second
  | .set members => members.all Key.isWritable
  | .list items => areWritable items
  | .object fields => fieldsWritable fields
  | _ => true

/-- No integer in the items of a list is too long to be written. -/
def areWritable : List Data → Bool
  | [] => true
  | item :: rest => isWritable item && areWritable rest

/-- No integer in the fields of an object is too long to be written. -/
def fieldsWritable : List (Key × Data) → Bool
  | [] => true
  | (key, value) :: rest => key.isWritable && isWritable value && fieldsWritable rest

end

/-- **The text of a value, if it can be written.** -/
def display? (value : Data) : Option String :=
  if value.isWritable then some value.display else none

/-! ## Overriding -/

/-- The key that a value makes; sets, lists and objects make none. -/
def key? : Data → Option Key
  | .null => some .null
  | .bool b => some (.bool b)
  | .int n => some (.int n)
  | .real x => some (.real x)
  | .text s => some (.text s)
  | .bytes bs => some (.bytes bs)
  | .moment m => some (.moment m)
  | .pair first second => do return .pair (← first.key?) (← second.key?)
  | .set _ | .list _ | .object _ | .inner _ => none

/-- A byte as a value. -/
def ofByte (byte : UInt8) : Data :=
  .int byte.toNat

/-- The parts of a value: the items of a list, the characters of a text, the keys of an object, and
so on; a value without parts has none. -/
def parts? : Data → Option (List Data)
  | .text s => some (s.toList.map fun c => .text (String.singleton c))
  | .bytes bs => some (bs.map ofByte)
  | .pair first second => some [first, second]
  | .set members => some (members.map Key.toData)
  | .list items => some items
  | .object fields => some (fields.map fun (key, _) => key.toData)
  | _ => none

/-- The field that one member of a list contributes: it must have two parts. -/
def asField (value : Data) : Except Misfit (Key × Data) :=
  match value.parts? with
  | none => .error .noMembers
  | some [name, content] =>
    match name.key? with
    | some key => .ok (key, content)
    | none => .error .notSingle
  | some _ => .error .notPair

/-- **The fields that a value contributes when it overrides an object.**  A value that counts as
nothing contributes nothing, an object its fields, and any other its parts, which must be pairs. -/
def entries (value : Data) : Except Misfit (List (Key × Data)) :=
  if value.isVoid then .ok []
  else match value, value.parts? with
    | .object fields, _ => .ok fields
    | _, some parts => parts.mapM asField
    | _, none => .error .noMembers

/-- The members of a value; a value that counts as nothing has none. -/
def members (value : Data) : Except Misfit (List Data) :=
  if value.isVoid then .ok []
  else match value.parts? with
    | some parts => .ok parts
    | none => .error .noMembers

/-- The members of a value, all of which must be single values. -/
def singles (value : Data) : Except Misfit (List Data) := do
  let members ← value.members
  if members.all fun member => member.key?.isSome then return members else throw .notSingle

end Data

/-! ## Entered numbers -/

/-- A number as it was entered.  A blank is something else than nothing: who enters a blank guide is
in a guide, but in one that no table knows.  It is written as an empty list, and like a list it
calls no entry of a table. -/
inductive Entry where
  | number (n : Int)
  | blank
deriving DecidableEq, Repr

namespace Entry

instance : Coe Int Entry := ⟨number⟩

/-- The number by which the entry calls something in a table. -/
def key : Entry → Except Misfit Int
  | number n => .ok n
  | blank => .error .notSingle

/-- The entry as a plain value. -/
def toData : Entry → Data
  | number n => .int n
  | blank => .list []

end Entry

end GuideMarkup
