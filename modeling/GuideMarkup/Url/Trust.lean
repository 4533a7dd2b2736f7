import GuideMarkup.Guide
import GuideMarkup.Url.Address

/-!
# Url/Trust — the origins of web addresses, and which addresses may be followed

A web address is trusted when its origin is on the whitelist.  Anything that is no web address is
neither trusted nor untrusted, and leaves the whitelist unused.
-/

namespace GuideMarkup

/-! ## Web addresses -/

/-- The web address that a text spells; the text must start with `http` in small letters. -/
def webAddress? (s : List Char) : Option Address :=
  if "http".toList.isPrefixOf s then (Address.read? s).filter Address.isWeb else none

/-- The text spells a web address. -/
def isWebUrl (url : String) : Bool :=
  (webAddress? url.toList).isSome

/-- **The origin of a web address**: `scheme://host`. -/
def originOf (url : String) : Option String :=
  (webAddress? url.toList).map fun address => String.ofList address.origin

/-- The host of a web address. -/
def hostOf (url : String) : Option String :=
  (webAddress? url.toList).map fun address => String.ofList address.host

/-- The text is a bare web address: it starts as one, and trimmed it is one without blanks in it. -/
def isBareUrl (text : String) : Bool :=
  let trimmed := trim text.toList
  "http".toList.isPrefixOf text.toList && (webAddress? trimmed).isSome && !trimmed.any isBlank

theorem isWebUrl_iff_originOf {url : String} :
    isWebUrl url = true ↔ (originOf url).isSome = true := by
  simp [isWebUrl, originOf]

/-! ## Trust -/

namespace Context

/-- The origin is on the whitelist. -/
def allows (ctx : Context) (origin : String) : Except Fault Bool := do
  return (← need .whitelist ctx.whitelist).contains origin

/-- **The address is a web address of a trusted origin.** -/
def trusts (ctx : Context) (url : String) : Except Fault Bool :=
  match originOf url with
  | none => .ok false
  | some origin => ctx.allows origin

/-- **The address is a web address of an origin that is not trusted.** -/
def distrusts (ctx : Context) (url : String) : Except Fault Bool :=
  match originOf url with
  | none => .ok false
  | some origin => do return !(← ctx.allows origin)

/-- The text is nothing but an untrusted address, blanks around it apart. -/
def hides (ctx : Context) (text : String) : Except Fault Bool :=
  if isBareUrl text then ctx.distrusts (String.ofList (trim text.toList)) else .ok false

/-! ## With a whitelist at hand -/

section Known

variable {ctx : Context} {origins : List String} (known : ctx.whitelist = some origins)

include known

theorem allows_eq (origin : String) : ctx.allows origin = .ok (origins.contains origin) := by
  rw [allows, known]
  rfl

variable {url origin : String} (reads : originOf url = some origin)

include reads

theorem trusts_eq : ctx.trusts url = .ok (origins.contains origin) := by
  rw [trusts, reads]
  exact allows_eq known origin

theorem distrusts_eq : ctx.distrusts url = .ok (!origins.contains origin) := by
  rw [distrusts, reads]
  simp only [allows_eq known]
  rfl

end Known

end Context
end GuideMarkup
