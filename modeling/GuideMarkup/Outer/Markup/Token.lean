import GuideMarkup.Outer.Markup.Reference
import GuideMarkup.Text.Blank

/-!
# Outer/Markup/Token — the pieces that markup text is cut into

    text · <name attributes> · </name> · <!-- comment --> · <!declaration>

`Token.scan` cuts a text from left to right.  Every step leaves less text than it found, which is
why the cutting comes to an end.
-/

namespace GuideMarkup

/-- A piece of markup text. -/
inductive Token where
  | text (value : List Char)
  | opening (name : String) (attributes : List (String × String))
  | closing (name : String)
  | comment
  | declaration
deriving DecidableEq, Repr

namespace Token

/-- The token leaves a document empty. -/
def isVoid : Token → Bool
  | .comment => true
  | .declaration => true
  | .text value => allBlank value
  | _ => false

/-! ## Names -/

/-- The elements without content. -/
def voidNames : List String := ["br", "img", "input", "hr"]

/-- The attributes that mean their own name when they have no value. -/
def switchNames : List String :=
  ["checked", "compact", "declare", "defer", "disabled", "ismap", "multiple", "nohref", "noresize",
    "noshade", "nowrap", "readonly", "selected"]

/-- White space between the parts of a tag.  Other blanks belong to the parts. -/
def isSpace (c : Char) : Bool :=
  c == ' ' || c == '\t' || c == '\n' || c == '\x0c'

/-- A character of a tag or attribute name. -/
def isNameChar (c : Char) : Bool :=
  !isSpace c && c != '/' && c != '>' && c != '='

/-- A name with its ASCII capitals made small. -/
def smallName (s : List Char) : String :=
  String.ofList (s.map Char.toLower)

/-! ## What is left of a text -/

/-- The text after the first `c`; empty if there is none. -/
def dropThrough (c : Char) (s : List Char) : List Char :=
  (s.dropWhile (· != c)).drop 1

/-- The text after the first mark `-->` or `--!>`; empty if there is none. -/
def dropCommentEnd : List Char → List Char
  | [] => []
  | '-' :: '-' :: '>' :: rest => rest
  | '-' :: '-' :: '!' :: '>' :: rest => rest
  | _ :: rest => dropCommentEnd rest

/-- The text after a comment whose opening mark has been read.  An end mark may share the hyphens of
the opening one. -/
def dropComment : List Char → List Char
  | '>' :: rest => rest
  | '-' :: '>' :: rest => rest
  | s => dropCommentEnd s

theorem length_dropWhile_le (p : Char → Bool) (s : List Char) :
    (s.dropWhile p).length ≤ s.length :=
  (List.dropWhile_suffix p).length_le

theorem length_dropThrough_le (c : Char) (s : List Char) : (dropThrough c s).length ≤ s.length :=
  ((List.drop_suffix _ _).trans (List.dropWhile_suffix _)).length_le

theorem length_dropCommentEnd_le (s : List Char) : (dropCommentEnd s).length ≤ s.length := by
  fun_induction dropCommentEnd s with
  | case1 => exact Nat.le_refl _
  | case2 rest => exact Nat.le_add_right _ 3
  | case3 rest => exact Nat.le_add_right _ 4
  | case4 c rest _ _ ih => exact Nat.le_succ_of_le ih

theorem length_dropComment_le (s : List Char) : (dropComment s).length ≤ s.length := by
  unfold dropComment
  split
  · exact Nat.le_succ _
  · exact Nat.le_add_right _ 2
  · exact length_dropCommentEnd_le _

/-! ## Attributes -/

/-- A character of a value without quotes. -/
def isBareChar (c : Char) : Bool :=
  !isSpace c && c != '>'

/-- The value of an attribute and the text after it: between quotes, or up to white space or the
end of the tag. -/
def attributeValue : List Char → List Char × List Char
  | '"' :: rest => (rest.takeWhile (· != '"'), dropThrough '"' rest)
  | '\'' :: rest => (rest.takeWhile (· != '\''), dropThrough '\'' rest)
  | s => (s.takeWhile isBareChar, s.dropWhile isBareChar)

theorem length_attributeValue_le (s : List Char) : (attributeValue s).2.length ≤ s.length := by
  unfold attributeValue
  split
  · exact Nat.le_succ_of_le (length_dropThrough_le _ _)
  · exact Nat.le_succ_of_le (length_dropThrough_le _ _)
  · exact length_dropWhile_le _ _

/-- The text of the value that an attribute has, if an equals sign comes next. -/
def valueStart? (s : List Char) : Option (List Char) :=
  match s.dropWhile isSpace with
  | '=' :: rest => some (rest.dropWhile isSpace)
  | _ => none

theorem length_valueStart?_le {s start : List Char} (h : valueStart? s = some start) :
    start.length ≤ s.length := by
  unfold valueStart? at h
  split at h
  · rename_i rest hrest
    obtain rfl := Option.some.inj h
    have := length_dropWhile_le isSpace s
    rw [hrest] at this
    exact Nat.le_trans (length_dropWhile_le _ _) (Nat.le_of_succ_le this)
  · cases h

/-- The attributes up to the end of a tag, and the text after the tag. -/
def attributesOf (s : List Char) : List (String × String) × List Char :=
  match s with
  | [] => ([], [])
  | '>' :: rest => ([], rest)
  | c :: rest =>
    if isNameChar c then
      let name := smallName (c :: rest.takeWhile isNameChar)
      have hName := length_dropWhile_le isNameChar rest
      match h : valueStart? (rest.dropWhile isNameChar) with
      | some start =>
        let value := attributeValue start
        have : value.2.length < (c :: rest).length :=
          Nat.lt_succ_of_le (Nat.le_trans (length_attributeValue_le start)
            (Nat.le_trans (length_valueStart?_le h) hName))
        let more := attributesOf value.2
        ((name, String.ofList (Reference.decode .value value.1)) :: more.1, more.2)
      | none =>
        have : (rest.dropWhile isNameChar).length < (c :: rest).length := Nat.lt_succ_of_le hName
        let more := attributesOf (rest.dropWhile isNameChar)
        ((name, if switchNames.contains name then name else "") :: more.1, more.2)
    else
      have : rest.length < (c :: rest).length := Nat.lt_succ_self _
      attributesOf rest
termination_by s.length
decreasing_by all_goals assumption

theorem length_attributesOf_le (s : List Char) : (attributesOf s).2.length ≤ s.length := by
  fun_induction attributesOf s with
  | case1 => exact Nat.le_refl _
  | case2 rest => exact Nat.le_succ _
  | case3 c rest _ _ _ _ _ _ value hlt more ih => exact Nat.le_trans ih (Nat.le_of_lt hlt)
  | case4 c rest _ _ _ _ _ hlt more ih => exact Nat.le_trans ih (Nat.le_of_lt hlt)
  | case5 c rest _ _ hlt ih => exact Nat.le_trans ih (Nat.le_of_lt hlt)

/-! ## Tokens -/

theorem lt_add_of_le {m n k : Nat} (h : m ≤ n) (hk : 0 < k) : m < n + k :=
  Nat.lt_of_le_of_lt h (Nat.lt_add_of_pos_right hk)

/-- **The tokens of a markup text.**  What opens no tag, comment or declaration is text. -/
def scan (s : List Char) : List Token :=
  match s with
  | [] => []
  | '<' :: '!' :: '-' :: '-' :: rest =>
    have := lt_add_of_le (length_dropComment_le rest) (Nat.succ_pos 3)
    .comment :: scan (dropComment rest)
  | '<' :: '?' :: rest =>
    have := lt_add_of_le (length_dropThrough_le '>' rest) (Nat.succ_pos 1)
    .comment :: scan (dropThrough '>' rest)
  | '<' :: '!' :: rest =>
    have := lt_add_of_le (length_dropThrough_le '>' rest) (Nat.succ_pos 1)
    .declaration :: scan (dropThrough '>' rest)
  | '<' :: '/' :: rest =>
    have := lt_add_of_le (length_dropThrough_le '>' rest) (Nat.succ_pos 1)
    .closing (smallName (rest.takeWhile isNameChar)) :: scan (dropThrough '>' rest)
  | c :: rest =>
    if c = '<' ∧ rest.head?.any Char.isAlpha then
      let found := attributesOf (rest.dropWhile isNameChar)
      have : found.2.length < rest.length + 1 :=
        Nat.lt_succ_of_le (Nat.le_trans (length_attributesOf_le _) (length_dropWhile_le _ _))
      .opening (smallName (rest.takeWhile isNameChar)) found.1 :: scan found.2
    else
      have := Nat.lt_succ_of_le (length_dropWhile_le (· != '<') rest)
      .text (Reference.decode .content (c :: rest.takeWhile (· != '<'))) ::
        scan (rest.dropWhile (· != '<'))
termination_by s.length
decreasing_by all_goals assumption

end Token
end GuideMarkup
