import GuideMarkup.Proofs.Literals
import GuideMarkup.Proofs.Visit

/-!
# Proofs/Hiding — which texts are hidden

    "https://b.org"    ↦  hidden link
    "https://b.org "   ↦  hidden link
    " https://b.org"   ↦  the text as it is

A text that is nothing but an untrusted address (`IsUntrustedUrl`) is hidden, whatever blanks stand
behind it.  Blanks before it bring it back to light (`isHiddenLink_iff_isUntrustedUrl`): the address
is looked for in the trimmed text, but the letters it has to begin with are looked for in the text
as it is (`isBareUrl_iff`).
-/

namespace GuideMarkup

/-! ## Trimmed texts -/

/-- The text without the blanks around it. -/
def trimmed (text : String) : String :=
  String.ofList (trim text.toList)

theorem toList_trimmed (text : String) : (trimmed text).toList = trim text.toList :=
  String.toList_ofList

theorem trimmed_blank_append {front back : List Char} (before : allBlank front = true)
    (behind : allBlank back = true) (text : String) :
    trimmed (String.ofList (front ++ text.toList ++ back)) = trimmed text := by
  rw [trimmed, trimmed, String.toList_ofList, trim_blank_append before behind]

/-- What starts without a blank is only trimmed from behind. -/
theorem trim_prefix_of_startsWithout {s : List Char} (stops : StartsWithout isBlank s) :
    trim s <+: s := by
  have kept : trimLeft s = s := Literal.trimLeft_append (w := []) rfl stops
  rw [trim, kept]
  exact trimRight_prefix s

/-! ## Untrusted addresses -/

/-- **A web address without blanks in it**, whose origin is none of these. -/
structure IsUntrustedUrl (origins : List String) (url : String) : Prop where
  isWebUrl : isWebUrl url = true
  noBlank : ∀ c ∈ url.toList, ¬isBlank c = true
  untrusted : ∀ origin, originOf url = some origin → origin ∉ origins

variable {origins : List String}

theorem ne_nil_of_isUntrustedUrl_trimmed {text : String}
    (url : IsUntrustedUrl origins (trimmed text)) : text.toList ≠ [] := by
  intro none
  have web := url.isWebUrl
  rw [trimmed, none] at web
  exact absurd web (by decide)

theorem http_prefix_of_isWebUrl {url : String} (web : isWebUrl url = true) :
    "http".toList <+: url.toList := by
  rw [isWebUrl, webAddress?] at web
  split at web
  · rename_i http
    exact List.isPrefixOf_iff_prefix.mp http
  · exact absurd web Bool.false_ne_true

/-- **A bare web address starts without a blank.** -/
theorem isBareUrl_iff {text : String} : isBareUrl text = true ↔
    StartsWithout isBlank text.toList ∧ isWebUrl (trimmed text) = true ∧
      ∀ c ∈ (trimmed text).toList, ¬isBlank c = true := by
  have parts : isBareUrl text = true ↔ "http".toList <+: text.toList ∧
      isWebUrl (trimmed text) = true ∧ ∀ c ∈ (trimmed text).toList, ¬isBlank c = true := by
    simp [isBareUrl, isWebUrl, trimmed, ← List.isPrefixOf_iff_prefix, and_assoc]
  rw [parts]
  refine and_congr_left fun url => ⟨?_, fun stops => ?_⟩
  · rintro ⟨rest, http⟩
    have letters : "http".toList = ['h', 't', 't', 'p'] := by decide
    rw [← http, letters]
    exact startsWithout_cons.mpr (by decide)
  · have http := http_prefix_of_isWebUrl url.1
    rw [toList_trimmed] at http
    exact http.trans (trim_prefix_of_startsWithout stops)

/-! ## Hidden texts -/

variable {ctx : Context}

/-- A text is hidden if it is nothing but an untrusted address, and starts as one. -/
theorem Context.hides_iff (known : ctx.whitelist = some origins) {text : String} :
    ctx.hides text = .ok true ↔
      StartsWithout isBlank text.toList ∧ IsUntrustedUrl origins (trimmed text) := by
  rw [hides]
  split
  · rename_i bare
    obtain ⟨stops, web, noBlank⟩ := isBareUrl_iff.mp bare
    obtain ⟨origin, reads⟩ := Option.isSome_iff_exists.mp (isWebUrl_iff_originOf.mp web)
    rw [← trimmed, distrusts_eq known reads, Except.ok.injEq, Bool.not_eq_true',
      List.contains_eq_mem, decide_eq_false_iff_not]
    constructor
    · refine fun untrusted => ⟨stops, web, noBlank, fun other same => ?_⟩
      obtain rfl := Option.some.inj (reads.symm.trans same)
      exact untrusted
    · rintro ⟨-, url⟩
      exact url.untrusted origin reads
  · rename_i notBare
    rw [Except.ok.injEq, Bool.false_eq_true, false_iff]
    rintro ⟨stops, url⟩
    exact notBare (isBareUrl_iff.mpr ⟨stops, url.isWebUrl, url.noBlank⟩)

/-- The node stands in the place of a hidden link. -/
def Node.IsHiddenLink (node : Node) : Prop :=
  ∃ message, node.content = .hiddenLink message

@[simp]
theorem Node.isHiddenLink_mk {content : Content} {children : List Node} :
    (Node.mk content children).IsHiddenLink ↔ ∃ message, content = .hiddenLink message :=
  Iff.rfl

variable (rules : List Rule) (ancestors : List Tag) (following : List Markup) (pass : Pass)

theorem isHiddenLink_transformNode_iff {text : String} :
    (transformNode rules ctx ancestors following (.text text) pass).1.IsHiddenLink ↔
      ctx.hides text = .ok true := by
  rw [transformNode]
  cases @transformText_cases ctx text pass with
  | hidden hides becomes => simp [becomes, hides, Node.leaf]
  | plain shows none becomes => simp [becomes, shows, Node.text, Node.leaf]
  | scanned shows pieces found becomes => simp [becomes, shows, Node.group]
  | failed fault fails becomes => simp [becomes, fails, Node.text, Node.leaf]

/-- **A text is hidden, wherever it stands, just if it is nothing but an untrusted address and does
not start with a blank**; so blanks behind it never matter, and any blank before it shows it. -/
theorem isHiddenLink_iff_isUntrustedUrl (known : ctx.whitelist = some origins) (text : String) :
    ((transformNode rules ctx ancestors following (.text text) pass).1.IsHiddenLink ↔
        StartsWithout isBlank text.toList ∧ IsUntrustedUrl origins (trimmed text)) ∧
      ∀ front back, allBlank front = true → allBlank back = true →
        ((transformNode rules ctx ancestors following
            (.text (String.ofList (front ++ text.toList ++ back))) pass).1.IsHiddenLink ↔
          front = [] ∧
            (transformNode rules ctx ancestors following (.text text) pass).1.IsHiddenLink) := by
  have hidden := fun text => (isHiddenLink_transformNode_iff rules ancestors following pass).trans
    (@Context.hides_iff _ _ known text)
  refine ⟨hidden text, fun front back before behind => ?_⟩
  rw [hidden, hidden, trimmed_blank_append before behind, String.toList_ofList, ← and_assoc]
  refine and_congr_left fun url => ⟨fun stops => ?_, ?_⟩
  · rcases front with _ | ⟨c, front⟩
    · exact ⟨rfl, stops.of_append⟩
    · have blank := List.all_eq_true.mp before c List.mem_cons_self
      exact absurd ((startsWithout_cons.mp stops).symm.trans blank) Bool.false_ne_true
  · rintro ⟨rfl, stops⟩
    exact stops.append (ne_nil_of_isUntrustedUrl_trimmed url) back

/-- A line that is nothing but an untrusted address is hidden, and is not if it is indented. -/
theorem isHiddenLink_iff_isUntrustedUrl_line :
    (transform Rule.standard .preview (.text "https://b.org\n") 0).1.IsHiddenLink ∧
      ¬(transform Rule.standard .preview (.text "\thttps://b.org\n") 0).1.IsHiddenLink := by
  obtain ⟨hidden, padded⟩ := @isHiddenLink_iff_isUntrustedUrl [] .preview Rule.standard [] []
    (Pass.start 0) rfl "https://b.org"
  have bare := hidden.mpr ⟨startsWithout_cons.mpr (by decide), by decide +kernel,
    List.any_eq_false.mp (by decide +kernel), fun _ _ => List.not_mem_nil⟩
  refine ⟨(padded [] ['\n'] rfl rfl).mpr ⟨rfl, bare⟩, fun shown => ?_⟩
  exact List.cons_ne_nil _ _ ((padded ['\t'] ['\n'] rfl rfl).mp shown).1

/-- An untrusted address behind a blank is not hidden. -/
theorem not_isHiddenLink_indented :
    IsUntrustedUrl [] (trimmed " https://b.org") ∧
      (transform Rule.standard .preview (.text "https://b.org") 0).1.IsHiddenLink ∧
      ¬(transform Rule.standard .preview (.text " https://b.org") 0).1.IsHiddenLink := by
  have hides : Context.preview.hides "https://b.org" = .ok true := by rfl
  have shows : Context.preview.hides " https://b.org" = .ok false := by rfl
  have url : IsUntrustedUrl [] (trimmed " https://b.org") :=
    ⟨by decide +kernel, List.any_eq_false.mp (by decide +kernel), fun _ _ => List.not_mem_nil⟩
  rw [transform, transform, isHiddenLink_transformNode_iff, isHiddenLink_transformNode_iff, shows]
  exact ⟨url, hides, by simp⟩

end GuideMarkup
