import GuideMarkup.Url.Trust
import Mathlib.Data.List.TakeWhile

/-!
# Proofs/Spelling — the origin of an address, whatever else is in it

    https :// reader@ Example.com :8443 /path?query#fragment   ↦   https://example.com
    https ://         [2001:DB8::1]                            ↦   https://2001:db8::1

    scheme :// user   written host port tail                   ↦   scheme://host

An address is put together from its parts (`Address.Parts`), which are read back from it one after
the other: no part but the tail holds a character that ends it, and no host one that begins another
part.
-/

namespace GuideMarkup
namespace Address

variable {c : Char} {s rest : List Char}

/-! ## Cutting a text at a character -/

theorem before_of_not_mem (absent : c ∉ s) : before c s = s :=
  List.takeWhile_eq_self_iff.mpr fun _ member => bne_iff_ne.mpr fun same => absent (same ▸ member)

theorem before_append_cons (absent : c ∉ s) : before c (s ++ c :: rest) = s := by
  rw [before, List.takeWhile_append_of_pos, List.takeWhile_cons_of_neg, List.append_nil]
  · simp
  · exact fun d member => bne_iff_ne.mpr fun same => absent (same ▸ member)

theorem after_append_cons (absent : c ∉ s) : after c (s ++ c :: rest) = rest := by
  rw [after, List.dropWhile_append_of_pos, List.dropWhile_cons_of_neg, List.drop_one,
    List.tail_cons]
  · simp
  · exact fun d member => bne_iff_ne.mpr fun same => absent (same ▸ member)

theorem afterLast_of_not_mem (absent : c ∉ s) : afterLast c s = s := by
  have absent : c ∉ s.reverse := fun member => absent (List.mem_reverse.mp member)
  rw [afterLast, ← before, before_of_not_mem absent, List.reverse_reverse]

theorem afterLast_append_cons (absent : c ∉ rest) : afterLast c (s ++ c :: rest) = rest := by
  have absent : c ∉ rest.reverse := fun member => absent (List.mem_reverse.mp member)
  rw [afterLast, List.reverse_append, List.reverse_cons, List.append_assoc, List.singleton_append,
    ← before, before_append_cons absent, List.reverse_reverse]

theorem contains_of_not_mem (absent : c ∉ s) : s.contains c = false := by
  simpa using absent

/-! ## Parts -/

/-- The characters that no authority has. -/
def foreign : List Char :=
  ['\t', '\n', '\r', '/', '?', '#'] ++ disguises

/-- The scheme is one of web addresses. -/
def IsWebScheme (scheme : List Char) : Prop :=
  scheme = "http".toList ∨ scheme = "https".toList

/-- What may stand before a host: nothing, or the name of a user. -/
def IsUser (user : List Char) : Prop :=
  user = [] ∨ ∃ name, user = name ++ ['@'] ∧ ∀ c ∈ name, c ∉ ['[', ']'] ++ foreign

/-- What may stand after a host: nothing, or a number. -/
def IsPort (port : List Char) : Prop :=
  port = [] ∨ ∃ digits, port = ':' :: digits ∧ ∀ c ∈ digits, c.isDigit = true

/-- What may stand after an authority: nothing, or something that starts a path, a query or a
fragment. -/
def IsTail (tail : List Char) : Prop :=
  tail = [] ∨ ∃ c rest, tail = c :: rest ∧ endsAuthority c = true

/-- **How a host is written**: a name as it is, and an address of the network in brackets. -/
inductive Writes (host : List Char) : List Char → Prop
  | name (nonempty : host ≠ []) (apart : ∀ c ∈ host, c ∉ ['@', ':', '[', ']'] ++ foreign) :
      Writes host host
  | bracketed (sound : Host.isBracketed host = true)
      (apart : ∀ c ∈ host, c ∉ ['@', '[', ']'] ++ foreign) : Writes host ('[' :: (host ++ [']']))

/-- **A web address in its parts.** -/
structure Parts where
  scheme : List Char
  user : List Char
  host : List Char
  /-- The host as it is written. -/
  written : List Char
  port : List Char
  tail : List Char
  isScheme : IsWebScheme scheme
  isUser : IsUser user
  writes : Writes host written
  isPort : IsPort port
  isTail : IsTail tail

/-- A host in small letters; a zone keeps its case. -/
def smallHost (host : List Char) : List Char :=
  lower (before '%' host) ++ host.dropWhile (· != '%')

namespace Parts

/-- Where the host and the port stand. -/
def place (parts : Parts) : List Char :=
  parts.written ++ parts.port

/-- What stands between `//` and the tail. -/
def authority (parts : Parts) : List Char :=
  parts.user ++ parts.place

/-- The address. -/
def text (parts : Parts) : List Char :=
  parts.scheme ++ ':' :: '/' :: '/' :: (parts.authority ++ parts.tail)

/-- The scheme and the host of the address. -/
def root (parts : Parts) : List Char :=
  parts.scheme ++ "://".toList ++ smallHost parts.host

end Parts

/-! ## No part holds what ends it -/

theorem not_mem_foreign {others : List Char} (apart : c ∉ others ++ foreign) : c ∉ foreign :=
  fun member => apart (List.mem_append_right others member)

/-- Whether the characters of a text are none of some others can be computed. -/
theorem apart_of_all {others : List Char} (none : s.all (!others.contains ·) = true) :
    ∀ c ∈ s, c ∉ others :=
  fun c member => by simpa using List.all_eq_true.mp none c member

/-- A character with a property is none of those that lack it. -/
theorem not_mem_of_all {p : Char → Bool} {others : List Char} (none : others.all (!p ·) = true)
    (holds : p c = true) : c ∉ others := by
  intro member
  have lacks := List.all_eq_true.mp none c member
  rw [holds] at lacks
  exact absurd lacks (by decide)

theorem not_mem_of_isDigit (digit : c.isDigit = true) : c ∉ ['@', '[', ']'] ++ foreign :=
  not_mem_of_all (by decide) digit

namespace IsPort

variable {port : List Char} (isPort : IsPort port)

include isPort

theorem apart : ∀ c ∈ port, c ∉ ['@', '[', ']'] ++ foreign := by
  intro c member
  obtain rfl | ⟨digits, rfl, all⟩ := isPort
  · exact absurd member List.not_mem_nil
  · obtain rfl | member := List.mem_cons.mp member
    · decide
    · exact not_mem_of_isDigit (all c member)

/-- A port starts with a colon. -/
theorem head? : port.isEmpty = true ∨ port.head? = some ':' := by
  obtain rfl | ⟨digits, rfl, -⟩ := isPort
  · exact Or.inl rfl
  · exact Or.inr rfl

theorem before_append {host : List Char} (absent : ':' ∉ host) :
    before ':' (host ++ port) = host := by
  obtain rfl | ⟨digits, rfl, -⟩ := isPort
  · rw [List.append_nil, before_of_not_mem absent]
  · exact before_append_cons absent

end IsPort

namespace Writes

variable {host written : List Char} (writes : Writes host written)

include writes

theorem apart : ∀ c ∈ written, c ∉ '@' :: foreign := by
  intro c member
  cases writes with
  | name nonempty apart => exact fun inList => apart c member (by simp_all)
  | bracketed sound apart =>
    obtain rfl | member := List.mem_cons.mp member
    · decide
    · obtain member | member := List.mem_append.mp member
      · exact fun inList => apart c member (by simp_all)
      · obtain rfl := List.mem_singleton.mp member
        decide

end Writes

namespace Parts

variable (parts : Parts)

theorem at_not_mem_place : '@' ∉ parts.place := by
  intro member
  obtain member | member := List.mem_append.mp member
  · exact parts.writes.apart _ member List.mem_cons_self
  · exact parts.isPort.apart _ member (by decide)

theorem hostPort_authority : hostPort parts.authority = parts.place := by
  rw [hostPort, authority]
  obtain none | ⟨name, user, -⟩ := parts.isUser
  · rw [none, List.nil_append, afterLast_of_not_mem parts.at_not_mem_place]
  · rw [user, List.append_assoc, List.singleton_append,
      afterLast_append_cons parts.at_not_mem_place]

/-- **Nothing in an authority ends it, or is left out of it.** -/
theorem not_mem_foreign_of_mem_authority : ∀ c ∈ parts.authority, c ∉ foreign := by
  intro c member
  obtain inUser | inPlace := List.mem_append.mp member
  · obtain none | ⟨name, user, apart⟩ := parts.isUser
    · rw [none] at inUser
      exact absurd inUser List.not_mem_nil
    · rw [user] at inUser
      obtain inName | last := List.mem_append.mp inUser
      · exact not_mem_foreign (apart c inName)
      · obtain rfl := List.mem_singleton.mp last
        decide
  · obtain inWritten | inPort := List.mem_append.mp inPlace
    · exact fun isForeign => parts.writes.apart c inWritten (List.mem_cons_of_mem _ isForeign)
    · exact not_mem_foreign (parts.isPort.apart c inPort)

theorem not_mem_user (bracket : c ∈ ['[', ']']) : c ∉ parts.user := by
  intro member
  obtain none | ⟨name, user, apart⟩ := parts.isUser
  · rw [none] at member
    exact absurd member List.not_mem_nil
  · rw [user] at member
    obtain inName | last := List.mem_append.mp member
    · exact apart c inName (List.mem_append_left _ bracket)
    · obtain rfl := List.mem_singleton.mp last
      exact absurd bracket (by decide)

/-! ## Brackets -/

/-- A host that is written as a name stands in an authority without brackets. -/
theorem not_mem_authority_of_name {name : List Char}
    (apart : ∀ c ∈ name, c ∉ ['@', ':', '[', ']'] ++ foreign) (isName : parts.written = name)
    (bracket : c ∈ ['[', ']']) : c ∉ parts.authority := by
  intro member
  obtain inUser | inPlace := List.mem_append.mp member
  · exact parts.not_mem_user bracket inUser
  · have bracket : c ∈ ['@', '[', ']'] := List.mem_cons_of_mem _ bracket
    rw [place, isName] at inPlace
    obtain inName | inPort := List.mem_append.mp inPlace
    · exact apart c inName (List.mem_append_left _ (by simp_all))
    · exact parts.isPort.apart c inPort (List.mem_append_left _ bracket)

/-- The place of a bracketed host. -/
theorem place_of_bracketed {host : List Char} (brackets : parts.written = '[' :: (host ++ [']'])) :
    parts.place = [] ++ '[' :: (host ++ ']' :: parts.port) := by
  rw [place, brackets]
  simp

theorem bracketsSound_authority : bracketsSound parts.authority = true := by
  rw [bracketsSound, parts.hostPort_authority]
  have writes := parts.writes
  generalize written : parts.written = w at writes
  cases writes with
  | name nonempty apart =>
    have opening := parts.not_mem_authority_of_name apart written (c := '[') (by decide)
    have closing := parts.not_mem_authority_of_name apart written (c := ']') (by decide)
    rw [contains_of_not_mem opening, contains_of_not_mem closing]
  | bracketed sound apart =>
    have place := parts.place_of_bracketed written
    have closing : ']' ∉ parts.host := fun member => apart _ member (by decide)
    -- whether or not there is a user, the authority has both brackets, those of the host
    have opened : parts.authority.contains '[' = true := by
      rw [authority, place]
      simp
    have closed : parts.authority.contains ']' = true := by
      rw [authority, place]
      simp
    have inPlace : parts.place.contains '[' = true := by
      rw [place]
      simp
    simp only [opened, closed, inPlace, if_true]
    rw [place, before_append_cons List.not_mem_nil, after_append_cons List.not_mem_nil,
      before_append_cons closing, after_append_cons closing, sound]
    obtain none | colon := parts.isPort.head?
    · simp [none]
    · simp [colon]

theorem isSound_authority : isSound parts.authority = true := by
  rw [isSound, parts.bracketsSound_authority, Bool.true_and, Bool.not_eq_true', List.any_eq_false]
  intro c member disguised
  have isForeign : c ∈ foreign :=
    List.mem_append_right _ (List.contains_iff_mem.mp disguised)
  exact parts.not_mem_foreign_of_mem_authority c member isForeign

/-! ## Reading the parts back -/

theorem writtenHost_authority : writtenHost ⟨parts.scheme, parts.authority⟩ = parts.host := by
  rw [writtenHost, parts.hostPort_authority]
  have writes := parts.writes
  generalize written : parts.written = w at writes
  cases writes with
  | name nonempty apart =>
    have opening : '[' ∉ parts.place := fun member =>
      parts.not_mem_authority_of_name apart written (c := '[') (by decide)
        (List.mem_append_right _ member)
    have colon : ':' ∉ parts.host := fun member => apart _ member (by decide)
    rw [if_neg (by simpa using opening), place, written, parts.isPort.before_append colon]
  | bracketed sound apart =>
    have place := parts.place_of_bracketed written
    have closing : ']' ∉ parts.host := fun member => apart _ member (by decide)
    rw [if_pos (by rw [place]; simp), place, after_append_cons List.not_mem_nil,
      before_append_cons closing]

theorem splitScheme_append {scheme : List Char} (isScheme : IsWebScheme scheme) :
    splitScheme (scheme ++ ':' :: rest) = (scheme, rest) := by
  have absent : ':' ∉ scheme := by obtain rfl | rfl := isScheme <;> decide
  have named : Address.isScheme scheme = true := by obtain rfl | rfl := isScheme <;> decide
  have small : scheme.map Char.toLower = scheme := by obtain rfl | rfl := isScheme <;> decide
  rw [splitScheme, before_append_cons absent, after_append_cons absent, named, small,
    if_pos (by simp)]

/-- Tabs and line ends are left out of the tail only. -/
theorem filter_text : parts.text.filter (!isIgnored ·) =
    parts.scheme ++ ':' :: '/' :: '/' :: (parts.authority ++ parts.tail.filter (!isIgnored ·)) := by
  have scheme : parts.scheme.filter (!isIgnored ·) = parts.scheme := by
    obtain same | same := parts.isScheme <;> rw [same] <;> decide
  have authority : parts.authority.filter (!isIgnored ·) = parts.authority := by
    refine List.filter_eq_self.mpr fun c member => ?_
    have apart := parts.not_mem_foreign_of_mem_authority c member
    simp_all [foreign, isIgnored]
  rw [text, List.filter_append, scheme, List.filter_cons_of_pos (by decide),
    List.filter_cons_of_pos (by decide), List.filter_cons_of_pos (by decide), List.filter_append,
    authority]

theorem authorityOf_append : authorityOf
    ('/' :: '/' :: (parts.authority ++ parts.tail.filter (!isIgnored ·))) = parts.authority := by
  have inner : ∀ c ∈ parts.authority, (!endsAuthority c) = true := by
    intro c member
    have apart := parts.not_mem_foreign_of_mem_authority c member
    simp_all [foreign, endsAuthority]
  rw [authorityOf, List.takeWhile_append_of_pos inner]
  obtain none | ⟨c, rest, tail, ends⟩ := parts.isTail
  · rw [none, List.filter_nil, List.takeWhile_nil, List.append_nil]
  · have kept : (!isIgnored c) = true := by
      have none : ['/', '?', '#'].all (!isIgnored ·) = true := by decide
      exact List.all_eq_true.mp none c (by simpa [endsAuthority, or_assoc] using ends)
    rw [tail, List.filter_cons_of_pos (p := (!isIgnored ·)) kept,
      List.takeWhile_cons_of_neg (by simp [ends]), List.append_nil]

theorem read?_text : read? parts.text = some ⟨parts.scheme, parts.authority⟩ := by
  simp only [read?, parts.filter_text, splitScheme_append parts.isScheme, parts.authorityOf_append,
    parts.isSound_authority, if_true]

theorem host_authority :
    Address.host ⟨parts.scheme, parts.authority⟩ = smallHost parts.host := by
  simp only [Address.host, parts.writtenHost_authority, smallHost]

end Parts

/-! ## Small letters -/

theorem lowerChar_ne_nil (c : Char) : lowerChar c ≠ [] := by
  rw [lowerChar]
  split
  · nofun
  · split <;> nofun

theorem lower_ne_nil (nonempty : s ≠ []) : lower s ≠ [] := by
  obtain ⟨c, rest, rfl⟩ := List.exists_cons_of_ne_nil nonempty
  rw [lower, lowerAfter]
  refine List.append_ne_nil_of_left_ne_nil ?_ _
  split
  · nofun
  · exact lowerChar_ne_nil c

theorem smallHost_ne_nil {host : List Char} (nonempty : host ≠ []) : smallHost host ≠ [] := by
  obtain ⟨c, rest, rfl⟩ := List.exists_cons_of_ne_nil nonempty
  rw [smallHost, before]
  by_cases zone : c = '%'
  · rw [zone, List.dropWhile_cons_of_neg (by simp)]
    exact List.append_ne_nil_of_right_ne_nil _ (List.cons_ne_nil _ _)
  · rw [List.takeWhile_cons_of_pos (by simpa using zone)]
    exact List.append_ne_nil_of_left_ne_nil (lower_ne_nil (List.cons_ne_nil _ _)) _

theorem Writes.ne_nil {host written : List Char} (writes : Writes host written) : host ≠ [] := by
  cases writes with
  | name nonempty apart => exact nonempty
  | bracketed sound apart =>
    rintro rfl
    exact absurd sound (by decide)

/-! ### No small letter is a bracket -/

theorem ofNat_ne_opening {n : Nat} (ne : n ≠ 0x5B) : Char.ofNat n ≠ '[' := by
  by_cases valid : n.isValidChar
  · rw [Char.ofNat, dif_pos valid]
    exact fun same => ne (congrArg Char.toNat same)
  · rw [Char.ofNat, dif_neg valid]
    decide

theorem opening_not_mem_lowerChar (ne : c ≠ '[') : '[' ∉ lowerChar c := by
  have apart : caseRuns.all (fun run =>
      !decide (run.span.first ≤ 0x5B - run.shift ∧ 0x5B - run.shift ≤ run.span.last)) = true := by
    decide +kernel
  rw [lowerChar]
  split
  · decide
  split
  · rename_i run found
    have within := List.find?_some found
    obtain ⟨first, last⟩ := (Span.holds_iff run.span c).mp (Bool.and_eq_true_iff.mp within).1
    have outside := List.all_eq_true.mp apart run (List.mem_of_find?_eq_some found)
    rw [Bool.not_eq_true', decide_eq_false_iff_not] at outside
    have moved : (c.toNat + run.shift).toNat ≠ 0x5B := by omega
    exact fun member => ofNat_ne_opening moved (List.mem_singleton.mp member).symm
  · exact fun member => ne (List.mem_singleton.mp member).symm

theorem opening_not_mem_lowerAfter {before : List Char} (absent : '[' ∉ s) :
    '[' ∉ lowerAfter before s := by
  induction s generalizing before with
  | nil => exact List.not_mem_nil
  | cons c rest ih =>
    rw [List.mem_cons, not_or] at absent
    rw [lowerAfter, List.mem_append, not_or]
    refine ⟨?_, ih absent.2⟩
    split
    · split <;> decide
    · exact opening_not_mem_lowerChar (Ne.symm absent.1)

theorem opening_not_mem_smallHost {host : List Char} (absent : '[' ∉ host) :
    '[' ∉ smallHost host := by
  rw [smallHost, List.mem_append, not_or]
  refine ⟨opening_not_mem_lowerAfter fun member => absent ?_, fun member => absent ?_⟩
  · exact (List.takeWhile_sublist _).mem member
  · exact (List.dropWhile_sublist _).mem member

/-- **A host is written as an origin shows it** just if it is a name in small letters. -/
theorem Writes.eq_smallHost_iff {host written : List Char} (writes : Writes host written) :
    written = smallHost host ↔ written = host ∧ smallHost host = host := by
  refine ⟨fun shown => ?_, fun ⟨asIs, small⟩ => asIs.trans small.symm⟩
  cases writes with
  | name nonempty apart => exact ⟨rfl, shown.symm⟩
  | bracketed sound apart =>
    have absent : '[' ∉ smallHost host :=
      opening_not_mem_smallHost fun member => apart _ member (by decide)
    rw [← shown] at absent
    exact absurd List.mem_cons_self absent

/-! ## Origins -/

namespace Parts

variable (parts : Parts)

theorem webAddress?_text : webAddress? parts.text = some ⟨parts.scheme, parts.authority⟩ := by
  have http : "http".toList.isPrefixOf parts.text = true := by
    have scheme : "http".toList <+: parts.scheme := by
      obtain same | same := parts.isScheme
      · exact same ▸ List.prefix_rfl
      · exact same ▸ (by decide : "http".toList <+: "https".toList)
    exact List.isPrefixOf_iff_prefix.mpr (scheme.trans (List.prefix_append _ _))
  have web : isWeb ⟨parts.scheme, parts.authority⟩ = true := by
    have someHost := smallHost_ne_nil parts.writes.ne_nil
    rw [isWeb, parts.host_authority, List.isEmpty_eq_false_iff.mpr someHost, Bool.not_false,
      Bool.and_true, Bool.or_eq_true, beq_iff_eq, beq_iff_eq]
    exact parts.isScheme
  rw [webAddress?, if_pos http, parts.read?_text, Option.filter_some, if_pos web]

/-- **The origin of an address is its scheme and its host in small letters**, whatever user, port,
path, query and fragment there are. -/
theorem originOf_text : originOf (String.ofList parts.text) = some (String.ofList parts.root) := by
  rw [originOf, String.toList_ofList, parts.webAddress?_text, Option.map_some, origin,
    parts.host_authority, root]

end Parts

end Address
end GuideMarkup
