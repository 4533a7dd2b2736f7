/-!
# Node/Kind — kinds of game resources and states of quests

Both are closed lists; markup spells some of their members in two ways.
-/

namespace GuideMarkup

/-! ## Resources -/

/-- What a resource tag stands for. -/
inductive ResourceKind where
  | monster
  | quest
  | item
  | dungeon
  /-- An item of the second game. -/
  | foreignItem
deriving DecidableEq, Repr

namespace ResourceKind

/-- The kinds and the names they are written with in markup. -/
def spellings : List (String × ResourceKind) :=
  [("monster", .monster), ("quest", .quest), ("item", .item), ("dungeon", .dungeon),
    ("foreign-game-item", .foreignItem), ("wakfu-item", .foreignItem)]

/-- The kind that a markup name spells. -/
def ofMarkup? (name : String) : Option ResourceKind :=
  spellings.lookup name

/-- The name of the kind in tables and in output. -/
def name : ResourceKind → String
  | .monster => "monster"
  | .quest => "quest"
  | .item => "item"
  | .dungeon => "dungeon"
  | .foreignItem => "foreignItem"

/-- The kind of the given name. -/
def ofName? (s : String) : Option ResourceKind :=
  [monster, quest, item, dungeon, foreignItem].find? (·.name == s)

/-- The word for one resource of the kind. -/
def noun : ResourceKind → String
  | .foreignItem => "item"
  | kind => kind.name

/-- The kind has pages on the alternate site, opened with Alt. -/
def isMapped : ResourceKind → Bool
  | .item | .quest | .dungeon => true
  | .monster | .foreignItem => false

/-- The tooltip of a resource: which gesture does what, with the keys of the platform. -/
def title (kind : ResourceKind) (isMac : Bool) : String :=
  let site := if kind = .foreignItem then "MethodWakfu" else "dofusdb"
  "Click to copy the " ++ kind.noun ++ " name. " ++ (if isMac then "⌘" else "Ctrl") ++
    "+click to open on " ++ site ++
    (if kind = .quest then ". " ++ (if isMac then "⌥" else "Alt") ++ "+click to open on DPLN"
      else "")

theorem ofName?_name (kind : ResourceKind) : ofName? kind.name = some kind := by
  cases kind <;> decide

theorem isMapped_iff {kind : ResourceKind} :
    kind.isMapped = true ↔ kind = .item ∨ kind = .quest ∨ kind = .dungeon := by
  cases kind <;> decide

end ResourceKind

/-! ## Quests -/

/-- How far a quest is. -/
inductive QuestStatus where
  | setup
  | start
  | inProgress
  | done
deriving DecidableEq, Repr

namespace QuestStatus

/-- The states and the names they are written with in markup. -/
def spellings : List (String × QuestStatus) :=
  [("setup", .setup), ("start", .start), ("inProgress", .inProgress), ("in_progress", .inProgress),
    ("end", .done)]

/-- The state that a markup name spells. -/
def ofMarkup? (name : String) : Option QuestStatus :=
  spellings.lookup name

/-- The name of the state in output. -/
def name : QuestStatus → String
  | .setup => "setup"
  | .start => "start"
  | .inProgress => "inProgress"
  | .done => "end"

/-- The state of the given name. -/
def ofName? (s : String) : Option QuestStatus :=
  [setup, start, inProgress, done].find? (·.name == s)

/-- The colour that marks a quest block of this state. -/
def indicator : QuestStatus → Option String
  | .setup => some "orange"
  | .start => some "red"
  | .inProgress => none
  | .done => some "green"

theorem ofName?_name (status : QuestStatus) : ofName? status.name = some status := by
  cases status <;> decide

end QuestStatus

end GuideMarkup
