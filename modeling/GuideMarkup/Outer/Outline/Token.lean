import GuideMarkup.Outer.Outline.Line
import GuideMarkup.Outer.Outline.Quoted
import GuideMarkup.Outer.Outline.Tag
import GuideMarkup.Outer.Outline.Verbatim

/-!
# Outer/Outline/Token — an outline as a row of marks and texts

    origins:              mapStart key `origins` value
      - https://one         listStart entry `https://one`
    messages: {}          blockEnd key `messages` value openMap closeMap
                          blockEnd

A block starts where a mark stands deeper than the block around it, and ends where something stands
less deep.  That a text is a key shows only at the colon after it, so the scanner remembers where a
key may have begun and puts the marks of a key there later.
-/

namespace GuideMarkup
namespace Outline

/-- A mark or a text of an outline. -/
inductive Token where
  | listStart
  | mapStart
  | blockEnd
  | entry
  | key
  | value
  | openList
  | closeList
  | openMap
  | closeMap
  | comma
  | scalar (text : List Char) (plain : Bool)
  /-- A name for the value that follows. -/
  | anchor (name : List Char)
  /-- The value that was given a name. -/
  | named (name : List Char)
  /-- What is said of the value that follows. -/
  | tag (tag : WrittenTag)
  /-- What is said of the document that follows. -/
  | directive (directive : Directive)
  | documentStart
  | documentEnd
deriving DecidableEq, Repr

/-! ## Places -/

/-- A place in a text. -/
structure Place where
  index : Nat
  line : Nat
  column : Nat
deriving DecidableEq, Repr

/-- The place after a character. -/
def Place.after (place : Place) (c : Char) : Place :=
  if isBreak c then ⟨place.index + 1, place.line + 1, 0⟩
  else ⟨place.index + 1, place.line, if c == '\uFEFF' then place.column else place.column + 1⟩

/-- The place after so many characters of a text. -/
def Place.skip (place : Place) : Nat → List Char → Place
  | 0, _ => place
  | _, [] => place
  | n + 1, c :: rest => (place.after c).skip n rest

/-! ## The scanner -/

/-- Where a key may have begun. -/
structure KeyStart where
  place : Place
  /-- How many tokens came before it. -/
  tokens : Nat
  /-- Nothing but a key may stand there. -/
  required : Bool

/-- A text that is being taken apart. -/
structure Scanner where
  rest : List Char
  place : Place
  /-- How deep the block at hand is indented; outside of all blocks it is below zero. -/
  indent : Int
  /-- The indentations of the blocks around it, innermost first. -/
  outer : List Int
  /-- A key may begin here. -/
  keyAllowed : Bool
  /-- Where a key may have begun, inside the innermost brackets. -/
  keyStart : Option KeyStart
  /-- The same outside of each pair of brackets, innermost first. -/
  outerKeys : List (Option KeyStart)
  /-- The tokens so far, last first. -/
  tokens : List Token

namespace Scanner

/-- The scanner at the start of a text. -/
def start (s : List Char) : Scanner :=
  ⟨s, ⟨0, 0, 0⟩, -1, [], true, none, [], []⟩

/-- The scanner is between brackets. -/
def bracketed (s : Scanner) : Bool :=
  !s.outerKeys.isEmpty

/-- The scanner where the rest of the text is the given one. -/
def goTo (s : Scanner) (rest : List Char) : Scanner :=
  { s with rest, place := s.place.skip (s.rest.length - rest.length) s.rest }

/-- The scanner after so many characters. -/
def skip (s : Scanner) (n : Nat) : Scanner :=
  s.goTo (s.rest.drop n)

/-- The scanner with one more token. -/
def push (s : Scanner) (token : Token) : Scanner :=
  { s with tokens := token :: s.tokens }

/-! ### Blanks and comments -/

/-- What comes after blanks, comments and breaks, and whether a break was among them. -/
def afterBlanks : Bool → Bool → List Char → List Char × Bool
  | _, crossed, [] => ([], crossed)
  | comment, crossed, c :: rest =>
    if isBreak c then afterBlanks false true rest
    else if comment || c == ' ' then afterBlanks comment crossed rest
    else if c == '#' then afterBlanks true crossed rest
    else (c :: rest, crossed)

/-- The scanner at the next token; after a break a key may begin, except between brackets. -/
def skipBlanks (s : Scanner) : Scanner :=
  let (rest, crossed) := afterBlanks false false s.rest
  { s.goTo rest with keyAllowed := s.keyAllowed || (crossed && !s.bracketed) }

/-! ### Keys -/

/-- A key that begins here ends on the same line, and soon. -/
def reaches (s : Scanner) (key : KeyStart) : Bool :=
  key.place.line == s.place.line && s.place.index - key.place.index ≤ 1024

/-- The key that may have begun, unless it is out of reach. -/
def refresh (s : Scanner) : Option KeyStart → Except Fault (Option KeyStart)
  | none => .ok none
  | some key =>
    if s.reaches key then .ok (some key)
    else if key.required then .error .malformed
    else .ok none

/-- The scanner without the keys that are out of reach. -/
def refreshAll (s : Scanner) : Except Fault Scanner := do
  let keyStart ← s.refresh s.keyStart
  let outerKeys ← s.outerKeys.mapM s.refresh
  return { s with keyStart, outerKeys }

/-- The scanner where no key has begun inside the innermost brackets. -/
def forget (s : Scanner) : Except Fault Scanner :=
  if s.keyStart.any KeyStart.required then .error .malformed else .ok { s with keyStart := none }

/-- The scanner where a key may begin at the token that comes next. -/
def remember (s : Scanner) : Except Fault Scanner :=
  if s.keyAllowed then do
    let required := !s.bracketed && s.indent == s.place.column
    return { ← s.forget with keyStart := some ⟨s.place, s.tokens.length, required⟩ }
  else .ok s

/-! ### Blocks -/

/-- The indentation after all blocks deeper than a column have ended, those around it, and the
tokens. -/
def endBlocks (column : Int) : Int → List Int → List Token → Int × List Int × List Token
  | indent, [], tokens => (indent, [], tokens)
  | indent, next :: outer, tokens =>
    if column < indent then endBlocks column next outer (.blockEnd :: tokens)
    else (indent, next :: outer, tokens)

/-- The scanner after the blocks deeper than a column have ended; brackets hold all blocks open. -/
def unwind (s : Scanner) (column : Int) : Scanner :=
  if s.bracketed then s
  else
    let (indent, outer, tokens) := endBlocks column s.indent s.outer s.tokens
    { s with indent, outer, tokens }

/-- The scanner where a block begins at a column, if that is deeper; its mark stands before the last
`later` tokens. -/
def deepen (s : Scanner) (mark : Token) (column later : Nat) : Scanner :=
  if s.indent < column then
    { s with
      indent := column
      outer := s.indent :: s.outer
      tokens := s.tokens.take later ++ mark :: s.tokens.drop later }
  else s

/-! ### Tokens -/

/-- A mark that belongs to a block, such as the hyphen of an entry. -/
def blockMark (s : Scanner) (mark start : Token) : Except Fault Scanner := do
  if !s.bracketed && !s.keyAllowed then throw .malformed
  let deep := if s.bracketed then s else s.deepen start s.place.column 0
  return { (← deep.forget).push mark with keyAllowed := true }.skip 1

/-- The question mark of a key. -/
def keyMark (s : Scanner) : Except Fault Scanner := do
  let after ← s.blockMark .key .mapStart
  return { after with keyAllowed := !s.bracketed }

/-- The colon of a value: what may have been a key is one. -/
def valueMark (s : Scanner) : Except Fault Scanner :=
  match s.keyStart with
  | some key =>
    let later := s.tokens.length - key.tokens
    let keyed := { s with
      keyStart := none
      keyAllowed := false
      tokens := s.tokens.take later ++ Token.key :: s.tokens.drop later }
    let deep := if s.bracketed then keyed else keyed.deepen .mapStart key.place.column (later + 1)
    .ok ((deep.push .value).skip 1)
  | none => do
    let after ← s.blockMark .value .mapStart
    return { after with keyAllowed := !s.bracketed }

/-- An opening bracket, which may begin a key. -/
def openBracket (s : Scanner) (mark : Token) : Except Fault Scanner := do
  let s ← s.remember
  return { s.push mark with
    keyAllowed := true, keyStart := none, outerKeys := s.keyStart :: s.outerKeys }.skip 1

/-- A closing bracket. -/
def closeBracket (s : Scanner) (mark : Token) : Except Fault Scanner :=
  match s.outerKeys with
  | [] => .error .malformed
  | key :: outerKeys =>
    .ok ({ s.push mark with keyAllowed := false, keyStart := key, outerKeys }.skip 1)

/-- A comma, after which a key may begin. -/
def commaMark (s : Scanner) : Except Fault Scanner := do
  return { (← s.forget).push .comma with keyAllowed := true }.skip 1

/-- A token that may be a key, and what follows it. -/
def keyable (s : Scanner) (token : Token) (rest : List Char) : Except Fault Scanner := do
  return { (← s.remember).push token with keyAllowed := false }.goTo rest

/-- A mark between documents. -/
def documentMark (s : Scanner) (mark : Token) : Except Fault Scanner := do
  return { (← (s.unwind (-1)).forget).push mark with keyAllowed := false }.skip 3

/-- A text without quotes. -/
def plain (s : Scanner) : Except Fault Scanner := do
  let found := plainText s.bracketed (s.indent + 1).toNat [] [] 0 s.rest
  let after ← s.keyable (.scalar found.text true) found.rest
  return { after with keyAllowed := found.crossed }

/-- A text between quotes. -/
def quoted (s : Scanner) (double : Bool) : Except Fault Scanner := do
  let keyed ← s.remember
  let (text, rest) ← quotedText double .text [] .none s.rest.tail
  return { keyed.push (.scalar text false) with keyAllowed := false }.goTo rest

/-- A text in lines of its own, after which a key may begin. -/
def verbatim (s : Scanner) (folded : Bool) : Except Fault Scanner := do
  let (text, rest) ← verbatimText folded (s.indent + 1).toNat s.rest.tail
  return { (← s.forget).push (.scalar text false) with keyAllowed := true }.goTo rest

/-- A name may end before the rest of the text. -/
def endsName (rest : List Char) : Bool :=
  endsWord rest || rest.head?.any fun c => "?:,]\x7d%@\x60".toList.contains c

/-- A name after its mark. -/
def nameMark (s : Scanner) (token : List Char → Token) : Except Fault Scanner :=
  let name := s.rest.tail.takeWhile isNameChar
  let rest := s.rest.tail.dropWhile isNameChar
  if name.isEmpty || !endsName rest then .error .malformed else s.keyable (token name) rest

/-- A tag. -/
def tagMark (s : Scanner) : Except Fault Scanner := do
  let (tag, rest) ← readTag s.rest.tail
  s.keyable (.tag tag) rest

/-- A directive, which ends all blocks and takes a whole line. -/
def directiveLine (s : Scanner) : Except Fault Scanner := do
  let s ← (s.unwind (-1)).forget
  let (directive, rest) ← readDirective s.rest.tail
  return { s.push (.directive directive) with keyAllowed := false }.goTo rest

/-- A character with which no text without quotes begins. -/
def isIndicator (c : Char) : Bool :=
  "-?:,[]\x7b\x7d#&*!|>'\"%@\x60\t".toList.contains c

/-- A text without quotes may begin here. -/
def startsPlain (s : Scanner) (c : Char) (rest : List Char) : Bool :=
  !isIndicator c ||
    (!endsWord rest && (c == '-' || (!s.bracketed && (c == '?' || c == ':'))))

/-- The scanner after the token that begins with a character. -/
def readToken (s : Scanner) (c : Char) (rest : List Char) : Except Fault Scanner :=
  let first := s.place.column == 0
  let marks := s.bracketed || endsWord rest
  if first && c == '%' then s.directiveLine
  else if first && startsMark '-' (c :: rest) then s.documentMark .documentStart
  else if first && startsMark '.' (c :: rest) then s.documentMark .documentEnd
  else if c == '[' then s.openBracket .openList
  else if c == '{' then s.openBracket .openMap
  else if c == ']' then s.closeBracket .closeList
  else if c == '}' then s.closeBracket .closeMap
  else if c == ',' then s.commaMark
  else if c == '-' && endsWord rest then s.blockMark .entry .listStart
  else if c == '?' && marks then s.keyMark
  else if c == ':' && marks then s.valueMark
  else if c == '*' then s.nameMark .named
  else if c == '&' then s.nameMark .anchor
  else if c == '!' then s.tagMark
  else if c == '|' && !s.bracketed then s.verbatim false
  else if c == '>' && !s.bracketed then s.verbatim true
  else if c == '\'' then s.quoted false
  else if c == '"' then s.quoted true
  else if s.startsPlain c rest then s.plain
  else .error .malformed

/-- The scanner after one more token; at the end of the text there is none. -/
def step (s : Scanner) : Except Fault (Option Scanner) := do
  let s ← s.skipBlanks.refreshAll
  match s.rest with
  | [] => return none
  | c :: rest => return some (← (s.unwind s.place.column).readToken c rest)

/-- The tokens at the end of the text. -/
def finish (s : Scanner) : Except Fault (List Token) := do
  let s ← (s.skipBlanks.unwind (-1)).forget
  return s.tokens.reverse

/-- The tokens in front of all keys that may have begun. -/
def settled (s : Scanner) : List Token :=
  let keys := (s.keyStart :: s.outerKeys).filterMap id
  match ((keys.filter s.reaches).map KeyStart.tokens).min? with
  | some count => s.tokens.reverse.take count
  | none => s.tokens.reverse

end Scanner

/-- The tokens of an outline: all of them, or those in front of a fault. -/
structure Tokens where
  tokens : List Token
  fault : Option Fault

namespace Scanner

/-- The tokens of the rest of the text; every token takes at least one character, so that the length
of the text bounds their number. -/
def readAll : Nat → Scanner → Tokens
  | 0, s => ⟨s.settled, some .malformed⟩
  | fuel + 1, s =>
    match s.step with
    | .error fault => ⟨s.settled, some fault⟩
    | .ok (some next) => readAll fuel next
    | .ok none =>
      match s.finish with
      | .ok tokens => ⟨tokens, none⟩
      | .error fault => ⟨s.settled, some fault⟩

end Scanner

/-- **The tokens of an outline.** -/
def tokens (s : List Char) : Tokens :=
  (Scanner.start s).readAll (s.length + 1)

end Outline
end GuideMarkup
