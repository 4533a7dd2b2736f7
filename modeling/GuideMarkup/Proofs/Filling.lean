import GuideMarkup.Template.Fill

/-!
# Proofs/Filling — what becomes of an address template

    https://one.example/{lang}/{segment}/{id}    ↦    https://one.example/fr/object/{7}

A template of characters and plain fields becomes its characters with the values between them
(`AddressPart.fill_template`).  Filling is one pass, so a value is never looked into, not even when
it has braces of its own; and a brace of the template that is doubled becomes one.
-/

namespace GuideMarkup

/-! ## Address templates -/

/-- A field of an address template. -/
inductive AddressField where
  | lang
  | segment
  | id
deriving DecidableEq, Repr

namespace AddressField

/-- The name of the field. -/
def name : AddressField → String
  | .lang => "lang"
  | .segment => "segment"
  | .id => "id"

end AddressField

/-- A part of an address template: a character that stands for itself, or a field. -/
inductive AddressPart where
  | literal (c : Char)
  | value (field : AddressField)
deriving DecidableEq, Repr

namespace AddressPart

/-- How the part is written in a template: a brace that stands for itself is doubled. -/
def written : AddressPart → List Char
  | .literal c => if c = '{' ∨ c = '}' then [c, c] else [c]
  | .value field => '{' :: field.name.toList ++ ['}']

/-- What the part becomes. -/
def filled (values : AddressField → String) : AddressPart → List Char
  | .literal c => [c]
  | .value field => (values field).toList

/-- The template of the parts. -/
def template (address : List AddressPart) : String :=
  String.ofList (address.flatMap written)

/-- **The address that the parts become**: all fields at once, each literally its value. -/
def address (values : AddressField → String) (parts : List AddressPart) : String :=
  String.ofList (parts.flatMap (filled values))

/-! ## Reading a template -/

/-- The part as a part of any template. -/
def toTemplatePart : AddressPart → TemplatePart
  | .literal c => .literal c
  | .value field => .field ⟨field.name.toList, none, [], false⟩

theorem parts_written (part : AddressPart) (rest : List Char) :
    Template.parts .literal (part.written ++ rest) =
      Template.before part.toTemplatePart (Template.parts .literal rest) := by
  cases part with
  | literal c =>
    rw [written]
    by_cases brace : c = '{' ∨ c = '}'
    · rw [if_pos brace]
      obtain rfl | rfl := brace <;> rfl
    · rw [if_neg brace]
      obtain ⟨opening, closing⟩ := not_or.mp brace
      rw [List.cons_append, List.nil_append, Template.parts, if_neg opening, if_neg closing]
      rfl
  | value field => cases field <;> rfl

theorem parts_flatMap_written (parts : List AddressPart) :
    Template.parts .literal (parts.flatMap written) = (parts.map toTemplatePart, true) := by
  induction parts with
  | nil => rfl
  | cons part rest ih => rw [List.flatMap_cons, parts_written, ih]; rfl

/-! ## Filling a template -/

variable {properties : Template.Properties}

theorem valueAt_name {known : Template.Values} {field : AddressField} {value : Data}
    (entered : known.lookup field.name = some value) :
    Template.valueAt properties known field.name.toList = .ok value := by
  have named : Template.named known field.name.toList = .ok value := by
    have noNumber : Template.number? field.name.toList = .ok none := by cases field <;> rfl
    have nonempty : field.name.toList.isEmpty = false := by cases field <;> rfl
    rw [Template.named, noNumber, nonempty, String.ofList_toList, entered]
    rfl
  have whole : field.name.toList.takeWhile (!Template.endsName ·) = field.name.toList := by
    cases field <;> rfl
  have noStep : field.name.toList.dropWhile (!Template.endsName ·) = [] := by
    cases field <;> rfl
  rw [Template.valueAt, whole, noStep, named]
  rfl

variable {known : Template.Values} {values : AddressField → String}

theorem fillParts_map {fill : TemplateField → Except TemplateError (List Char)}
    {parts : List AddressPart} (fills : ∀ field, .value field ∈ parts →
      fill ⟨field.name.toList, none, [], false⟩ = .ok (values field).toList) :
    Template.fillParts fill (parts.map toTemplatePart) =
      .ok (parts.flatMap (filled values)) := by
  induction parts with
  | nil => rfl
  | cons part rest ih =>
    have others := ih fun field member => fills field (List.mem_cons_of_mem _ member)
    cases part with
    | literal c =>
      rw [List.map_cons, toTemplatePart, Template.fillParts, others]
      rfl
    | value field =>
      rw [List.map_cons, toTemplatePart, Template.fillParts, others,
        fills field List.mem_cons_self]
      rfl

/-- **A template of characters and fields is filled** with the values of the fields that it has. -/
theorem fill_template {parts : List AddressPart} (entered : ∀ field, .value field ∈ parts →
    known.lookup field.name = some (.text (values field))) :
    Template.fill properties known (template parts) = .ok (address values parts) := by
  have filled := @fillParts_map values
    (Template.fillField properties known (Template.fillWithin properties known 1)) parts
    fun field member => by
      rw [Template.fillField, valueAt_name (entered field member)]
      rfl
  rw [Template.fill, template, String.toList_ofList, Template.fillWithin, parts_flatMap_written]
  simp only [filled]
  rfl

end AddressPart

end GuideMarkup
