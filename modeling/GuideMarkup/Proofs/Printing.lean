import GuideMarkup.CommandLine.Run
import GuideMarkup.Proofs.Correspondence
import GuideMarkup.Proofs.Overriding
import GuideMarkup.Proofs.Preceding
import GuideMarkup.Proofs.Rebuilding

/-!
# Proofs/Printing — what the command prints says what the tree is

    arguments, configuration  ↦  context ┐
    markup  ──parser──▸  document  ──────┴▸  tree  ↦  plain data  ↦  JSON text  ──▸  the same tree

Two things are needed before the round trip can be applied to what the command prints.  No attribute
of a tag may be named twice, which holds of every document that was parsed and is kept by the rules
(`namesOnce_transform`); and the command must print the tree, and nothing else.  What that takes is
`Arguments.CanPrint`: above all, that the number of the guide was not left blank where it is needed,
although such arguments are accepted.
-/

namespace GuideMarkup

variable {rules : List Rule} {ctx : Context}

/-! ## Names of attributes -/

/-- No tag in the markup names an attribute twice. -/
inductive Markup.NamesOnce : Markup → Prop
  | text (value : String) : NamesOnce (.text value)
  | element {tag : Tag} {children : List Markup} (own : tag.attributes.Distinct)
      (below : ∀ child ∈ children, child.NamesOnce) : NamesOnce (.element tag children)

namespace Markup

theorem namesOnce_element {tag : Tag} {children : List Markup} :
    (element tag children).NamesOnce ↔
      tag.attributes.Distinct ∧ ∀ child ∈ children, child.NamesOnce := by
  constructor
  · rintro (_ | ⟨own, below⟩)
    exact ⟨own, below⟩
  · rintro ⟨own, below⟩
    exact .element own below

theorem namesOnce_ofText (value : Option String) : ∀ node ∈ ofText value, node.NamesOnce := by
  intro node member
  rcases value with _ | value
  · exact absurd member List.not_mem_nil
  · rw [ofText] at member
    split at member
    · exact absurd member List.not_mem_nil
    · obtain rfl := List.mem_singleton.mp member
      exact .text value

theorem namesOnce_ofRaw : ∀ raw : RawNode, ∀ node ∈ ofRaw raw, node.NamesOnce :=
  one
where
  one : ∀ raw : RawNode, ∀ node ∈ ofRaw raw, node.NamesOnce
    | .element name attributes inside children tail => by
      rw [ofRaw]
      have below := List.forall_mem_append.mpr ⟨namesOnce_ofText inside, all children⟩
      exact List.forall_mem_cons.mpr
        ⟨.element (Table.distinct_ofEntries _) below, namesOnce_ofText tail⟩
    | .aside _ tail => namesOnce_ofText tail
  all : ∀ raws : List RawNode, ∀ node ∈ ofRaws raws, node.NamesOnce
    | [] => nofun
    | raw :: rest => List.forall_mem_append.mpr ⟨one raw, all rest⟩

theorem namesOnce_ofFragment : ∀ fragment : Fragment, ∀ node ∈ ofFragment fragment, node.NamesOnce
  | .text value => namesOnce_ofText (some value)
  | .node raw => namesOnce_ofRaw raw

theorem namesOnce_root {children : List Markup} (below : ∀ child ∈ children, child.NamesOnce) :
    (root children).NamesOnce :=
  .element .nil below

/-- **No tag of a document that was parsed names an attribute twice**, whatever the parser. -/
theorem namesOnce_of_parse {parser : Parser} {markup : String} {document : Markup}
    (parsed : parse parser markup = .ok document) : document.NamesOnce := by
  rw [parse] at parsed
  split at parsed
  · obtain rfl := Except.ok.inj parsed
    exact namesOnce_root nofun
  · cases delivered : parser markup with
    | error error => rw [delivered] at parsed; exact absurd parsed nofun
    | ok fragments =>
      rw [delivered] at parsed
      obtain ⟨⟩ := parsed
      refine namesOnce_root fun node member => ?_
      obtain ⟨fragment, -, inside⟩ := List.mem_flatMap.mp member
      exact namesOnce_ofFragment fragment node inside

end Markup

theorem namesOnce_of_shows {site : Site} {scope : Scope} {content : Content}
    (shows : Shows ctx site scope content) : content.NamesOnce := by
  cases shows with
  | link role target leads marked icon =>
    rw [Context.linkContent]
    split <;> trivial
  | defused name untrusted => exact .nil
  | _ => trivial

theorem namesOnce_of_occursInText {content : Content} (occurs : OccursInText ctx content) :
    content.NamesOnce := by
  cases occurs with
  | plain value => exact .nil
  | _ => trivial

theorem namesOnce_settle {site : Site} {look : Scope → Pass → List Node × Pass}
    (own : site.tag.attributes.Distinct)
    (inside : ∀ scope pass, Node.Everywhere Content.NamesOnce (look scope pass).1) (pass : Pass) :
    Node.Everywhere Content.NamesOnce
      [((Rule.decideAll ctx site rules).settle look site.tag pass).1] := by
  cases (@Rule.decideAll_builds ctx site rules).ended look pass with
  | shown scope content shows becomes =>
    rw [becomes]
    refine Node.everywhere_mk.mpr ⟨namesOnce_of_shows shows, ?_⟩
    cases scope with
    | nothing => exact Node.everywhere_nil
    | first | all => exact inside _ pass
  | boxed isBox box made becomes =>
    rw [becomes]
    exact Node.everywhere_leaf trivial
  | left alone failures becomes =>
    rw [becomes]
    exact Node.everywhere_mk.mpr ⟨own, inside .all _⟩

/-- **No tag of the tree names an attribute twice**, if none of the document does. -/
theorem namesOnce_transform {document : Markup} (once : document.NamesOnce) (rules : List Rule)
    (ctx : Context) (start : Int) :
    Node.Everywhere Content.NamesOnce [(transform rules ctx document start).1] := by
  refine @transformNode_along₂ rules rules ctx ctx
    (fun nodes _ _ made _ => (∀ node ∈ nodes, node.NamesOnce) →
      Node.Everywhere Content.NamesOnce made.1)
    (fun _ _ _ => Node.everywhere_nil) (fun first rest once => ?_)
    (fun value pass _ _ => ?_) (fun site looks pass _ once => ?_)
    [] [] document (Pass.start start) (Pass.start start) (List.forall_mem_singleton.mpr once)
  · obtain ⟨here, after⟩ := List.forall_mem_cons.mp once
    exact Node.everywhere_append.mpr ⟨first (List.forall_mem_singleton.mpr here), rest after⟩
  · exact (Node.everywhere_transformText value pass).imp fun _ => namesOnce_of_occursInText
  · obtain ⟨own, below⟩ := Markup.namesOnce_element.mp (List.forall_mem_singleton.mp once)
    refine namesOnce_settle own (fun scope before => looks scope before before ?_) pass
    exact fun node member => below node (Markup.mem_of_mem_select member)

/-! ## What the arguments describe -/

namespace Arguments

/-- The guide being read is available if both its number and its steps were entered. -/
def available (arguments : Arguments) : Registry :=
  match arguments.guide, arguments.steps with
  | some (.number guide), some steps => [(guide, ⟨steps, arguments.lang⟩)]
  | _, _ => []

/-- **The context that the arguments describe**: that of a reader without any progress, under a
configuration. -/
def context (arguments : Arguments) (properties : Template.Properties) (config : Config) :
    Except Misfit Context :=
  (arguments.renderer properties config arguments.available).around [] arguments.guide
    arguments.step arguments.disabled []

/-- The tree of a document in a context. -/
def tree (document : Markup) (ctx : Context) : Node :=
  (transform Rule.standard ctx document 0).1

/-- The number of the guide is needed, for its steps or for the boxes of the step, and was left
blank. -/
def NeedsBlank (arguments : Arguments) : Prop :=
  arguments.guide = some .blank ∧ (arguments.steps.isSome ∨ arguments.step.isSome)

variable {arguments : Arguments} {found : Surroundings} {markup : String} {document : Markup}
  {config : Config}

theorem registry_eq (enough : ¬(arguments.guide = some .blank ∧ arguments.steps.isSome)) :
    arguments.registry = .ok arguments.available := by
  obtain ⟨file, _ | guide | _, step, _ | steps, lang, mac, disabled, autoTravel⟩ := arguments
  all_goals first
    | rfl
    | exact absurd ⟨rfl, rfl⟩ enough

theorem checkedIn_empty {guide step : Option Entry}
    (enough : ¬(guide = some .blank ∧ step.isSome)) :
    Progress.empty.checkedIn guide step = .ok [] := by
  rcases guide with _ | guide | _ <;> rcases step with _ | step
  all_goals first
    | rfl
    | exact absurd ⟨rfl, rfl⟩ enough

theorem checkedIn_blank {step : Option Entry} (needed : step.isSome = true) :
    Progress.empty.checkedIn (some .blank) step = .error .notSingle := by
  obtain ⟨step, rfl⟩ := Option.isSome_iff_exists.mp needed
  rfl

/-- What the command prints about a document, given its context. -/
theorem print_eq {renderer : Renderer} {made : Except Misfit Context}
    (parsed : Markup.parse found.parser markup = .ok document)
    (context : renderer.context .empty arguments.guide arguments.step arguments.disabled = made) :
    arguments.print renderer found.parser markup =
      (made.mapError .misfit).bind fun ctx =>
        match (tree document ctx).toData.toJson? with
        | some json => .ok ⟨0, json ++ "\n", ""⟩
        | none => .error (.misfit .overlong) := by
  rw [print, Renderer.render, parsed]
  simp only [Renderer.renderTree, context]
  cases made <;> rfl

/-- The command as far as its configuration. -/
theorem run_eq (readable : found.content = .ok markup) {printed : String}
    (logging : found.logging = .ok printed) {registry : Registry}
    (available : arguments.registry = .ok registry)
    (loads : Config.load found.files = .ok config) :
    arguments.run found =
      (arguments.print (arguments.renderer found.properties config registry) found.parser
        markup).map fun output =>
          { output with out := printed ++ output.out } := by
  rw [run, logging, available, loads, readable]
  simp only [bind, Except.bind, Except.mapError, pure, Except.pure]
  cases arguments.print (arguments.renderer found.properties config registry) found.parser markup
    <;> rfl

/-- **What the command comes to**, unless the number of the guide is needed and was left blank. -/
theorem run_of_not_needsBlank (readable : found.content = .ok markup)
    (parsed : Markup.parse found.parser markup = .ok document) (enough : ¬arguments.NeedsBlank)
    {printed : String} (logging : found.logging = .ok printed)
    (loads : Config.load found.files = .ok config) :
    arguments.run found =
      ((arguments.context found.properties config).mapError .misfit).bind fun ctx =>
        match (tree document ctx).toData.toJson? with
        | some json => .ok ⟨0, printed ++ (json ++ "\n"), ""⟩
        | none => .error (.misfit .overlong) := by
  have available := @registry_eq arguments fun ⟨blank, steps⟩ => enough ⟨blank, .inl steps⟩
  have checked := @checkedIn_empty arguments.guide arguments.step
    fun ⟨blank, step⟩ => enough ⟨blank, .inr step⟩
  have context : (arguments.renderer found.properties config arguments.available).context .empty
      arguments.guide arguments.step arguments.disabled =
        arguments.context found.properties config := by
    rw [Renderer.context_eq, checked]
    rfl
  rw [run_eq readable logging available loads, print_eq parsed context]
  cases arguments.context found.properties config with
  | error misfit => rfl
  | ok ctx =>
    simp only [Except.mapError, Except.bind]
    cases (tree document ctx).toData.toJson? <;> rfl

/-- In a context that was made, the command prints the tree just if its data can be written. -/
theorem run_of_context (readable : found.content = .ok markup)
    (parsed : Markup.parse found.parser markup = .ok document) (enough : ¬arguments.NeedsBlank)
    {printed : String} (logging : found.logging = .ok printed)
    (loads : Config.load found.files = .ok config) {ctx : Context}
    (made : arguments.context found.properties config = .ok ctx) :
    arguments.run found =
      if (tree document ctx).toData.isWritable = true then
        .ok ⟨0, printed ++ ((tree document ctx).toData.toJson ++ "\n"), ""⟩
      else .error (.misfit .overlong) := by
  rw [run_of_not_needsBlank readable parsed enough logging loads, made]
  simp only [Except.mapError, Except.bind, Data.toJson?]
  split_ifs <;> rfl

/-- A blank number calls no guide, neither for its steps nor for the boxes of a step. -/
theorem run_of_needsBlank (readable : found.content = .ok markup)
    (parsed : Markup.parse found.parser markup = .ok document) (needs : arguments.NeedsBlank) :
    ∃ escape, arguments.run found = .error escape := by
  cases logging : found.logging with
  | error escape => exact ⟨escape, by rw [run, logging]; rfl⟩
  | ok printed =>
  cases available : arguments.registry with
  | error misfit => exact ⟨.misfit misfit, by rw [run, logging, available]; rfl⟩
  | ok registry =>
  cases loads : Config.load found.files with
  | error misfit => exact ⟨.misfit misfit, by rw [run, logging, available, loads]; rfl⟩
  | ok config =>
  obtain ⟨blank, needed⟩ := needs
  have step : arguments.step.isSome = true := needed.resolve_left fun steps => by
    obtain ⟨steps, entered⟩ := Option.isSome_iff_exists.mp steps
    rw [Arguments.registry, blank, entered] at available
    exact absurd available nofun
  have context : (arguments.renderer found.properties config registry).context .empty
      arguments.guide arguments.step arguments.disabled = .error .notSingle := by
    rw [Renderer.context_eq, blank, checkedIn_blank step]
    rfl
  refine ⟨.misfit .notSingle, ?_⟩
  rw [run_eq readable logging available loads, print_eq parsed context]
  rfl

/-! ## What is printed -/

/-- **What the command prints about a document can be read back**: the JSON in it is the plain data
of the tree in the context that the arguments describe, and the tree can be rebuilt from them. -/
def PrintsFaithfully (arguments : Arguments) (found : Surroundings) (document : Markup) : Prop :=
  ∃ config ctx out, Config.load found.files = .ok config ∧
    arguments.context found.properties config = .ok ctx ∧
    arguments.run found = .ok ⟨0, out, ""⟩ ∧
    Json.read? out = some (tree document ctx).toData ∧
    (Json.read? out).bind Node.ofData? = some (tree document ctx)

/-- **What it takes to print a document.** -/
structure CanPrint (arguments : Arguments) (found : Surroundings) (document : Markup) : Prop where
  /-- The number of the guide is not blank where it is needed. -/
  enough : ¬arguments.NeedsBlank
  /-- No error escapes from setting up logging, and it prints nothing but blanks. -/
  silent : ∃ printed, found.logging = .ok printed ∧ printed.toList.all Json.isSpace = true
  /-- There is a configuration, it can be used, and no integer of the tree is too long to be
  written. -/
  configured : ∃ config, Config.load found.files = .ok config ∧ config.IsUsable ∧
    ∀ ctx, arguments.context found.properties config = .ok ctx →
      (tree document ctx).toData.isWritable = true

/-- A guide is available just if it is being read and its steps were entered. -/
theorem lookup_available {guide : Int} {info : GuideInfo} :
    arguments.available.lookup guide = some info ↔ arguments.guide = some (.number guide) ∧
      ∃ steps, arguments.steps = some steps ∧ info = ⟨steps, arguments.lang⟩ := by
  obtain ⟨file, _ | own | _, step, _ | steps, lang, mac, disabled, autoTravel⟩ := arguments
  case number.some =>
    by_cases same : guide = own
    · subst same
      simp [available, eq_comm]
    · simp [available, List.lookup_cons, beq_false_of_ne same, Ne.symm same]
  all_goals simp [available]

/-- The plain data of a tree with a line feed behind them are read just if nothing but blanks stands
in front. -/
theorem read?_append_toData {node : Node} (once : Node.Everywhere Content.NamesOnce [node])
    (front : String) : Json.read? (front ++ (node.toData.toJson ++ "\n")) =
      if front.toList.all Json.isSpace then some node.toData else none := by
  have isJson := Node.isJson_toData once
  obtain ⟨field, fields, isObject⟩ :
      ∃ field fields, node.toData = .object (field :: fields) := by
    obtain ⟨content, children⟩ := node
    cases children <;> exact ⟨_, _, rfl⟩
  rw [isObject] at isJson ⊢
  exact Json.read?_append_toJson isJson front

theorem namesOnce_tree (parsed : Markup.parse found.parser markup = .ok document)
    (ctx : Context) : Node.Everywhere Content.NamesOnce [tree document ctx] :=
  namesOnce_transform (Markup.namesOnce_of_parse parsed) Rule.standard ctx 0

theorem printsFaithfully_of_canPrint (readable : found.content = .ok markup)
    (parsed : Markup.parse found.parser markup = .ok document)
    (can : arguments.CanPrint found document) : arguments.PrintsFaithfully found document := by
  obtain ⟨enough, ⟨printed, logging, blank⟩, config, loads, usable, writable⟩ := can
  obtain ⟨ctx, made⟩ : ∃ ctx, arguments.context found.properties config = .ok ctx :=
    Renderer.exists_around_iff.mpr usable
  have runs := (run_of_context readable parsed enough logging loads made).trans
    (if_pos (writable ctx made))
  have once := namesOnce_tree parsed ctx
  have read := (read?_append_toData once printed).trans (if_pos blank)
  exact ⟨config, ctx, _, loads, made, runs, read,
    by rw [read, Option.bind_some, Node.ofData?_toData]⟩

theorem canPrint_of_printsFaithfully (readable : found.content = .ok markup)
    (parsed : Markup.parse found.parser markup = .ok document)
    (prints : arguments.PrintsFaithfully found document) : arguments.CanPrint found document := by
  obtain ⟨config, ctx, out, loads, made, runs, reads, -⟩ := prints
  have enough : ¬arguments.NeedsBlank := fun needs => by
    obtain ⟨escape, ends⟩ := run_of_needsBlank readable parsed needs
    exact absurd (runs.symm.trans ends) nofun
  cases logging : found.logging with
  | error escape =>
    rw [run, logging] at runs
    exact absurd runs nofun
  | ok printed =>
  rw [run_of_context readable parsed enough logging loads made] at runs
  split_ifs at runs with writable
  obtain ⟨⟩ := runs
  have blank : printed.toList.all Json.isSpace = true := by
    by_contra filled
    rw [read?_append_toData (namesOnce_tree parsed ctx), if_neg filled] at reads
    cases reads
  refine ⟨enough, ⟨printed, logging, blank⟩, config, loads,
    Renderer.exists_around_iff.mp ⟨ctx, made⟩, fun other same => ?_⟩
  obtain rfl := Except.ok.inj (made.symm.trans same)
  exact writable

/-- **The command prints the whole tree** of every markup that its parser makes a document of, just
if it can.  Its context has the guide among those available just if both its number and its steps
were entered, and different trees have different plain data. -/
theorem printsFaithfully_iff (arguments : Arguments) (found : Surroundings) {markup : String}
    {document : Markup} (readable : found.content = .ok markup)
    (parsed : Markup.parse found.parser markup = .ok document) :
    (arguments.PrintsFaithfully found document ↔ arguments.CanPrint found document) ∧
      (arguments.NeedsBlank → ∃ escape, arguments.run found = .error escape) ∧
      (∀ guide info, arguments.available.lookup guide = some info ↔
        arguments.guide = some (.number guide) ∧
          ∃ steps, arguments.steps = some steps ∧ info = ⟨steps, arguments.lang⟩) ∧
      Function.Injective Node.toData :=
  ⟨⟨canPrint_of_printsFaithfully readable parsed, printsFaithfully_of_canPrint readable parsed⟩,
    run_of_needsBlank readable parsed, fun _ _ => lookup_available, Node.toData_injective⟩

/-! ### A step that has to be escaped -/

/-- The third step of a guide of twelve is being read. -/
def ofThirdStep : Arguments :=
  ⟨"step.html", some (.number 7), some (.number 3), some (.number 12), "fr", false, false, false⟩

/-- A paragraph with quotes, a backslash, a tabulator, a coordinate and a box in it. -/
def quotedStep : String :=
  "<p title='a\"\\'>\t[3,-4] \"é\"<input type=checkbox></p>"

/-- The paragraph as it is parsed. -/
def quotedFragments : List Fragment :=
  [.node (.element "p" [("title", "a\"\\")] (some "\t[3,-4] \"é\"")
    [.element "input" [("type", "checkbox")] none [] none] none)]

/-- The document of the paragraph. -/
def quotedDocument : Markup :=
  .root [.element ⟨"p", [("title", "a\"\\")]⟩
    [.text "\t[3,-4] \"é\"", .element ⟨"input", [("type", "checkbox")]⟩ []]]

/-- The paragraph as it is shown. -/
def quotedTree : Node :=
  .element ⟨Markup.rootName, []⟩ [.element ⟨"p", [("title", "a\"\\")]⟩
    [Node.group [Node.text "\t", Node.leaf (.position ⟨3, -4, "[3,-4]", false⟩),
      Node.text " \"é\""],
    Node.leaf (.checkbox ⟨0, false, true, some (.number 7), some (.number 3)⟩)]]

/-- A markup with its fragments, for a user without files, whose logging is set up in silence. -/
def alone (markup : String) (fragments : List Fragment) : Surroundings where
  parser := fun other => if other = markup then .ok fragments else .error (.crash "KeyError")
  properties := Template.plainProperties
  logging := .ok ""
  files := fun _ => none
  content := .ok markup

theorem load_alone (markup : String) (fragments : List Fragment) :
    Config.load (alone markup fragments).files = .ok .packaged := by
  have parts : Config.load (alone markup fragments).files = .ok ⟨_⟩ := rfl
  refine parts.trans (congrArg (fun part => Except.ok (Config.mk part)) (funext fun part => ?_))
  cases part <;> rfl

theorem parser_alone (markup : String) (fragments : List Fragment) :
    (alone markup fragments).parser markup = .ok fragments :=
  if_pos rfl

theorem parse_quotedStep :
    Markup.parse (alone quotedStep quotedFragments).parser quotedStep = .ok quotedDocument := by
  rw [Markup.parse, if_neg (by decide), parser_alone]
  rfl

/-- The context of the third step. -/
def thirdStepContext : Context where
  whitelist := Packaged.origins
  guide := some (.number 7)
  step := some (.number 3)
  disabled := false
  links := .standard
  hiddenLinkText := "hidden link"
  platform := ⟨false⟩
  registry := some [(7, ⟨.number 12, "fr"⟩)]
  checked := some []
  mapping := some [(.text "quest", some []), (.text "dungeon", some []), (.text "item", some [])]
  saved := some []
  travelCopy := false

theorem context_ofThirdStep :
    ofThirdStep.context Template.plainProperties .packaged = .ok thirdStepContext := by
  rfl

theorem tree_quotedDocument {ctx : Context}
    (made : ofThirdStep.context Template.plainProperties .packaged = .ok ctx) :
    tree quotedDocument ctx = quotedTree := by
  obtain rfl : ctx = thirdStepContext := Except.ok.inj (made.symm.trans context_ofThirdStep)
  have pieces : split? "\t[3,-4] \"é\"".toList =
      some [.coordinate ⟨['\t'], 3, -4, " \"é\"".toList⟩] := by decide +kernel
  have text : textNode thirdStepContext "\t[3,-4] \"é\"" = .ok (Node.group
      [Node.text "\t", Node.leaf (.position ⟨3, -4, "[3,-4]", false⟩), Node.text " \"é\""]) := by
    have shown : thirdStepContext.hides "\t[3,-4] \"é\"" = .ok false := by rfl
    rw [textNode, shown, pieces]
    rfl
  have around : tree quotedDocument thirdStepContext =
      let shown := transformText thirdStepContext "\t[3,-4] \"é\"" (Pass.start 0)
      .element ⟨Markup.rootName, []⟩ [.element ⟨"p", [("title", "a\"\\")]⟩ [shown.1,
        Node.leaf (.checkbox
          ⟨shown.2.next, false, true, some (.number 7), some (.number 3)⟩)]] := by
    rfl
  rw [around, transformText, text]
  rfl

/-- The paragraph is rebuilt from what is printed, with its title, the coordinate and the box. -/
theorem printsFaithfully_iff_quotedStep :
    Arguments.read ["step.html", "--guide-id", "7", "--steps", "12", "--step=3"] = .ok ofThirdStep ∧
      Markup.parse (alone quotedStep quotedFragments).parser quotedStep = .ok quotedDocument ∧
      ∃ out, ofThirdStep.run (alone quotedStep quotedFragments) = .ok ⟨0, out, ""⟩ ∧
        (Json.read? out).bind Node.ofData? = some quotedTree := by
  have can : ofThirdStep.CanPrint (alone quotedStep quotedFragments) quotedDocument := by
    refine ⟨fun needs => absurd needs.1 (by decide), ⟨"", rfl, rfl⟩, .packaged, load_alone _ _,
      Config.isUsable_packaged, fun ctx made => ?_⟩
    rw [tree_quotedDocument made]
    rfl
  obtain ⟨config, ctx, out, loads, made, printed, -, rebuilt⟩ :=
    (printsFaithfully_iff ofThirdStep _ rfl parse_quotedStep).1.mpr can
  obtain rfl := Except.ok.inj (loads.symm.trans (load_alone _ _))
  rw [tree_quotedDocument made] at rebuilt
  exact ⟨by rfl, parse_quotedStep, out, printed, rebuilt⟩

/-! ### A blank number -/

/-- The guide is left blank, and its steps are not. -/
def ofBlank : Arguments :=
  ⟨"step.html", some .blank, none, some (.number 5), "fr", false, false, false⟩

/-- **A guide left blank spoils the command**, though the arguments are accepted. -/
theorem not_printsFaithfully_blank :
    Arguments.read ["step.html", "--guide-id=--", "--steps", "5"] = .ok ofBlank ∧
      Markup.parse (alone "x" [.text "x"]).parser "x" = .ok (.root [.text "x"]) ∧
      ¬ofBlank.PrintsFaithfully (alone "x" [.text "x"]) (.root [.text "x"]) := by
  have parsed : Markup.parse (alone "x" [.text "x"]).parser "x" = .ok (.root [.text "x"]) := by
    rw [Markup.parse, if_neg (by decide), parser_alone]
    rfl
  refine ⟨by rfl, parsed, fun prints => ?_⟩
  exact (canPrint_of_printsFaithfully rfl parsed prints).enough ⟨rfl, .inl rfl⟩

end Arguments

end GuideMarkup
