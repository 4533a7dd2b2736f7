import GuideMarkup.Proofs.Spelling
import GuideMarkup.Url.Trust

/-!
# Proofs/Spoofing — no part of an address passes for its host

    https :// a.org:80@ B.org :443 /a.org   ↦   https://b.org

Whoever writes an address for others to follow has the choice of everything around its host.  In an
address of plain characters (`Address.Plain`) none of this reaches the origin, so it decides nothing
about trust.  The host itself is shown in small letters, which for these characters are the small
letters of ASCII (`lower_of_isAscii`).
-/

namespace GuideMarkup

/-! ## Small letters of ASCII -/

theorem isAscii_of_isAlphanum {c : Char} (plain : c.isAlphanum = true) : c.toNat < 128 := by
  delta Char.isAlphanum Char.isAlpha Char.isUpper Char.isLower Char.isDigit at plain
  simp only [Bool.or_eq_true, Bool.and_eq_true, decide_eq_true_eq] at plain
  grind [Char.toNat, UInt32.le_iff_toNat_le]

theorem lowerChar_of_isAscii {c : Char} (ascii : c.toNat < 128) : lowerChar c = [c.toLower] := by
  have all : ∀ n < 128, lowerChar (Char.ofNat n) = [(Char.ofNat n).toLower] := by decide +kernel
  have own := all c.toNat ascii
  rwa [Char.ofNat_toNat] at own

/-- **The small letters of a text of ASCII** are those of its characters. -/
theorem lower_of_isAscii {s : List Char} (ascii : ∀ c ∈ s, c.toNat < 128) :
    lower s = s.map Char.toLower := by
  suffices small : ∀ before, lowerAfter before s = s.map Char.toLower from small []
  induction s with
  | nil => exact fun _ => rfl
  | cons c rest ih =>
    obtain ⟨first, others⟩ := List.forall_mem_cons.mp ascii
    intro before
    have noSigma : c ≠ 'Σ' := by
      rintro rfl
      exact absurd first (by decide)
    rw [lowerAfter, if_neg noSigma, lowerChar_of_isAscii first, ih others]
    rfl

namespace Address

/-! ## Plain addresses -/

/-- The character may stand in a plain host. -/
def isHostChar (c : Char) : Bool :=
  c.isAlphanum || c == '-' || c == '.'

/-- The character may stand in front of a plain host: it is printed in ASCII, and neither ends an
authority nor is a bracket. -/
def isUserChar (c : Char) : Bool :=
  ' ' ≤ c && c ≤ '~' && !(['/', '?', '#', '[', ']'].contains c)

/-- **A plain address**: user and port are there or not, and the tail is anything that an authority
can end with. -/
structure Plain where
  scheme : List Char
  user : Option (List Char)
  host : List Char
  port : Option (List Char)
  tail : List Char
  isScheme : IsWebScheme scheme
  isUser : ∀ name ∈ user, ∀ c ∈ name, isUserChar c = true
  nonempty : host ≠ []
  isHost : ∀ c ∈ host, isHostChar c = true
  isPort : ∀ digits ∈ port, ∀ c ∈ digits, c.isDigit = true
  isTail : IsTail tail

theorem isAscii_of_isHostChar {c : Char} (isHost : isHostChar c = true) : c.toNat < 128 := by
  rw [isHostChar, Bool.or_eq_true, Bool.or_eq_true, beq_iff_eq, beq_iff_eq] at isHost
  obtain (plain | rfl) | rfl := isHost
  · exact isAscii_of_isAlphanum plain
  · decide
  · decide

namespace Plain

variable (address : Plain)

/-- What stands in front of the host. -/
def front (address : Plain) : List Char :=
  address.user.elim [] (· ++ ['@'])

/-- What stands between the host and the tail. -/
def back (address : Plain) : List Char :=
  address.port.elim [] (':' :: ·)

/-- The address as it is written. -/
def text (address : Plain) : String :=
  String.ofList (address.scheme ++ "://".toList ++ address.front ++ address.host ++ address.back ++
    address.tail)

/-- The scheme and the host of the address, in small letters. -/
def origin (address : Plain) : String :=
  String.ofList (address.scheme ++ "://".toList ++ address.host.map Char.toLower)

theorem isUser_front : IsUser address.front := by
  rw [front]
  cases user : address.user with
  | none => exact Or.inl rfl
  | some name =>
    exact Or.inr ⟨name, rfl, fun c member =>
      not_mem_of_all (by decide) (address.isUser name user c member)⟩

theorem isPort_back : IsPort address.back := by
  rw [back]
  cases port : address.port with
  | none => exact Or.inl rfl
  | some digits => exact Or.inr ⟨digits, rfl, address.isPort digits port⟩

/-- The parts of a plain address. -/
def parts : Parts where
  scheme := address.scheme
  user := address.front
  host := address.host
  written := address.host
  port := address.back
  tail := address.tail
  isScheme := address.isScheme
  isUser := address.isUser_front
  writes := .name address.nonempty fun c member =>
    not_mem_of_all (by decide) (address.isHost c member)
  isPort := address.isPort_back
  isTail := address.isTail

theorem text_eq : address.text = String.ofList address.parts.text := by
  simp [text, Parts.text, Parts.authority, Parts.place, parts]

theorem origin_eq : address.origin = String.ofList address.parts.root := by
  have zone : '%' ∉ address.host := fun member =>
    absurd (address.isHost _ member) (by decide)
  have small : smallHost address.host = address.host.map Char.toLower := by
    have ascii := lower_of_isAscii fun c member => isAscii_of_isHostChar (address.isHost c member)
    have none : address.host.dropWhile (· != '%') = [] :=
      List.dropWhile_eq_nil_iff.mpr fun c member => by
        simpa using fun same : c = '%' => zone (same ▸ member)
    rw [smallHost, before_of_not_mem zone, none, List.append_nil, ascii]
  rw [origin, Parts.root, parts, small]

/-- **The origin of a plain address is its scheme and its host**, so just this one decides whether
it is trusted. -/
theorem trusts_text {ctx : Context} {origins : List String} (known : ctx.whitelist = some origins) :
    originOf address.text = some address.origin ∧
      ctx.trusts address.text = .ok (decide (address.origin ∈ origins)) := by
  have reads : originOf address.text = some address.origin := by
    rw [address.text_eq, address.origin_eq, address.parts.originOf_text]
  refine ⟨reads, ?_⟩
  rw [Context.trusts_eq known reads, List.contains_eq_mem]

/-! ### An address that looks like a trusted one -/

/-- A trusted host stands before, behind and below the one that the address leads to. -/
def imposture : Plain where
  scheme := "http".toList
  user := some "a.org:80@a.org".toList
  host := "B-1.Org".toList
  port := some "443".toList
  tail := "?http://a.org@a.org/#a.org".toList
  isScheme := Or.inl rfl
  isUser := by
    rintro name ⟨⟩
    exact List.all_eq_true.mp (by decide)
  nonempty := by decide
  isHost := List.all_eq_true.mp (by decide)
  isPort := by
    rintro digits ⟨⟩
    exact List.all_eq_true.mp (by decide)
  isTail := Or.inr ⟨'?', _, rfl, rfl⟩

/-- The address is read as one of its own host, and is not trusted. -/
theorem trusts_text_imposture :
    imposture.text = "http://a.org:80@a.org@B-1.Org:443?http://a.org@a.org/#a.org" ∧
      originOf imposture.text = some "http://b-1.org" ∧
      ({ Context.preview with whitelist := some ["http://a.org"] }).trusts imposture.text =
        .ok false := by
  have text : imposture.text =
      "http://a.org:80@a.org@B-1.Org:443?http://a.org@a.org/#a.org" := by decide +kernel
  have origin : imposture.origin = "http://b-1.org" := by decide +kernel
  obtain ⟨reads, trusts⟩ := @trusts_text imposture
    { Context.preview with whitelist := some ["http://a.org"] } ["http://a.org"] rfl
  rw [origin] at reads trusts
  exact ⟨text, reads, trusts⟩

end Plain
end Address
end GuideMarkup
