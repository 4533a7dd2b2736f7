import GuideMarkup.Numeral
import GuideMarkup.Text.Blank
import GuideMarkup.Text.Lower

/-!
# Url/Address — scheme, authority and host of a web address

Only what decides trust is read: the scheme, the authority between `//` and the next `/`, `?` or
`#`, and the host within it.  Tabs and line ends are taken out of the whole address first.  Path,
query, fragment and port are never looked at.
-/

namespace GuideMarkup

/-! ## Hosts between brackets

Such a host is an IPv6 address, with an optional zone, or the form that is reserved for later
versions: `v`, hexadecimal digits, a dot and some text. -/

namespace Host

/-! ### Groups -/

/-- One group of an IPv6 address: one to four hexadecimal digits. -/
def isHextet (s : List Char) : Bool :=
  !s.isEmpty && s.length ≤ 4 && s.all isHexDigit

/-- One part of an IPv4 address: a decimal number up to 255 without leading zeros. -/
def isOctet (s : List Char) : Bool :=
  !s.isEmpty && s.length ≤ 3 && s.all Char.isDigit && (s == ['0'] || s.head? != some '0') &&
    s.foldl (fun n c => 10 * n + (c.toNat - 48)) 0 ≤ 255

/-- An IPv4 address: four octets between dots. -/
def isIPv4 (s : List Char) : Bool :=
  let octets := pieces (· == '.') s
  octets.length == 4 && octets.all isOctet

/-! ### IPv6 -/

/-- The groups of an IPv6 address, where an IPv4 address at the end counts as two groups. -/
def groups? (s : List Char) : Option (List (List Char)) :=
  let parts := pieces (· == ':') s
  if parts.length < 3 then none
  else match parts.getLast? with
    | none => none
    | some last =>
      if last.contains '.' then
        if isIPv4 last then some (parts.dropLast ++ [['0'], ['0']]) else none
      else some parts

/-- The groups on one side of the gap: an empty group is allowed only where the address itself
begins or ends with the gap. -/
def isSide (groups : List (List Char)) : Bool :=
  groups == [[]] || groups.all isHextet

/-- The number of groups that one side of the gap fills. -/
def sideLength (groups : List (List Char)) : Nat :=
  (groups.filter (!·.isEmpty)).length

/-- The groups form an address: eight of them, or fewer around one gap. -/
def isGroups (groups : List (List Char)) : Bool :=
  groups.length ≤ 9 &&
    match groups with
    | [] => false
    | first :: rest =>
      -- the gap is the only empty group that is neither first nor last
      let inner := rest.dropLast
      match inner.findIdx? (·.isEmpty) with
      | none => groups.length == 8 && groups.all isHextet
      | some i =>
        let front := first :: inner.take i
        let back := rest.drop (i + 1)
        isSide front && isSide back && sideLength front + sideLength back < 8

/-- An IPv6 address; a zone after `%` is some text without another `%`. -/
def isIPv6 (s : List Char) : Bool :=
  let address := s.takeWhile (· != '%')
  let zone := s.dropWhile (· != '%')
  (zone.isEmpty || (1 < zone.length && !(zone.drop 1).contains '%')) &&
    (groups? address).any isGroups

/-! ### The reserved form -/

/-- The form reserved for later versions. -/
def isFuture (s : List Char) : Bool :=
  let version := (s.drop 1).takeWhile isHexDigit
  s.head? == some 'v' && !version.isEmpty &&
    match (s.drop 1).dropWhile isHexDigit with
    | '.' :: text => !text.isEmpty
    | _ => false

/-- **A host that may stand between brackets.** -/
def isBracketed (s : List Char) : Bool :=
  if s.head? == some 'v' then isFuture s else isIPv6 s

end Host

/-! ## Addresses -/

/-- The scheme and authority of an address; both may be empty. -/
structure Address where
  scheme : List Char
  authority : List Char
deriving DecidableEq, Repr

namespace Address

/-! ### Cutting a text at a character -/

/-- What precedes the first `c`; everything if there is none. -/
def before (c : Char) (s : List Char) : List Char :=
  s.takeWhile (· != c)

/-- What follows the first `c`; nothing if there is none. -/
def after (c : Char) (s : List Char) : List Char :=
  (s.dropWhile (· != c)).drop 1

/-- What follows the last `c`; everything if there is none. -/
def afterLast (c : Char) (s : List Char) : List Char :=
  (s.reverse.takeWhile (· != c)).reverse

/-! ### Scheme -/

/-- A character that addresses are written without. -/
def isIgnored (c : Char) : Bool :=
  c == '\t' || c == '\n' || c == '\r'

/-- A character of a scheme. -/
def isSchemeChar (c : Char) : Bool :=
  c.isAlphanum || c == '+' || c == '-' || c == '.'

/-- The text is the name of a scheme. -/
def isScheme (s : List Char) : Bool :=
  s.head?.any Char.isAlpha && s.all isSchemeChar

/-- The scheme of an address and the text after its colon. -/
def splitScheme (s : List Char) : List Char × List Char :=
  if s.contains ':' && isScheme (before ':' s) then ((before ':' s).map Char.toLower, after ':' s)
  else ([], s)

/-! ### Authority -/

/-- A character that ends the authority. -/
def endsAuthority (c : Char) : Bool :=
  c == '/' || c == '?' || c == '#'

/-- The authority of the text after the scheme. -/
def authorityOf : List Char → List Char
  | '/' :: '/' :: rest => rest.takeWhile (!endsAuthority ·)
  | _ => []

/-- Characters whose compatibility form holds one of `/`, `?`, `#`, `@` and `:`. -/
def disguises : List Char :=
  ['\u2047', '\u2048', '\u2049', '\u2100', '\u2101', '\u2105', '\u2106', '\u2a74', '\ufe13',
    '\ufe16', '\ufe55', '\ufe56', '\ufe5f', '\ufe6b', '\uff03', '\uff0f', '\uff1a', '\uff1f',
    '\uff20']

/-- Where the host and port of an authority stand: after the last `@`. -/
def hostPort (authority : List Char) : List Char :=
  afterLast '@' authority

/-- The brackets of an authority are balanced, and hold a host that may be bracketed. -/
def bracketsSound (authority : List Char) : Bool :=
  match authority.contains '[', authority.contains ']' with
  | false, false => true
  | true, true =>
    let place := hostPort authority
    if place.contains '[' then
      let port := after ']' (after '[' place)
      (before '[' place).isEmpty && (port.isEmpty || port.head? == some ':') &&
        Host.isBracketed (before ']' (after '[' place))
    else Host.isBracketed (before ':' place)
  | _, _ => false

/-- The authority is well formed. -/
def isSound (authority : List Char) : Bool :=
  bracketsSound authority && !authority.any disguises.contains

/-- The parts of an address; a malformed one has none. -/
def read? (s : List Char) : Option Address :=
  let (scheme, rest) := splitScheme (s.filter (!isIgnored ·))
  let authority := authorityOf rest
  if isSound authority then some ⟨scheme, authority⟩ else none

/-! ### Host -/

/-- The host as it is written, brackets and port apart. -/
def writtenHost (address : Address) : List Char :=
  let place := hostPort address.authority
  if place.contains '[' then before ']' (after '[' place) else before ':' place

/-- The host in small letters; a zone keeps its case. -/
def host (address : Address) : List Char :=
  let written := address.writtenHost
  lower (before '%' written) ++ written.dropWhile (· != '%')

/-- The address is a web address: scheme `http` or `https`, and some host. -/
def isWeb (address : Address) : Bool :=
  (address.scheme == "http".toList || address.scheme == "https".toList) && !address.host.isEmpty

/-- The origin of the address: scheme and host, without user, port and path. -/
def origin (address : Address) : List Char :=
  address.scheme ++ "://".toList ++ address.host

end Address

end GuideMarkup
