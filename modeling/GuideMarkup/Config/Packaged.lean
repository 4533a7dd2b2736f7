import GuideMarkup.Data.Basic

/-!
# Config/Packaged — the configuration of a new installation
-/

namespace GuideMarkup

/-- The parts of the configuration, each in a file of its own. -/
inductive Section where
  | whitelist
  | resourceLinks
  | resourceMapping
  | messages
  | logging
deriving DecidableEq, Repr

namespace Section

/-- The name of a part. -/
def name : Section → String
  | .whitelist => "whitelist"
  | .resourceLinks => "resource_links"
  | .resourceMapping => "resource_mapping"
  | .messages => "messages"
  | .logging => "logging"

end Section

namespace Packaged

/-- Texts as a list. -/
def texts (items : List String) : Data :=
  .list (items.map .text)

/-- The origins that are trusted. -/
def origins : List String :=
  ["https://dofuspourlesnoobs.com", "https://www.dofuspourlesnoobs.com", "https://huzounet.fr",
    "https://dofusbook.net", "https://www.dofusbook.net", "https://ganymede-app.com",
    "https://ganymede-dofus.com", "https://dofus-portals.fr", "https://youtube.com",
    "https://www.youtube.com", "https://youtu.be", "https://twitter.com", "https://x.com",
    "https://dofus.com", "https://www.dofus.com", "https://www.twitch.tv", "https://twitch.tv",
    "https://metamob.fr", "https://dofusdb.fr", "https://barbofus.com", "https://dofensive.com",
    "https://www.dofuskin.com", "https://dofuskin.com", "https://docs.google.com",
    "https://dofustool.com", "https://www.dofustool.com", "https://krosmoz.com",
    "https://www.krosmoz.com", "https://gamosaurus.com", "https://www.gamosaurus.com",
    "https://comteharebourg.com", "https://www.comteharebourg.com", "https://d-bk.net"]

/-- The addresses of the databases, and how images are told apart. -/
def resourceLinks : Fields :=
  [("database_url_template",
      .text "https://dofusdb.fr/\x7blang\x7d/database/\x7bsegment\x7d/\x7bid\x7d"),
    ("foreign_item_url_template", .text "https://db.methodwakfu.com/items/\x7bid\x7d"),
    ("path_segments", .object
      [("monster", .text "monster"), ("quest", .text "quest"), ("item", .text "object"),
        ("dungeon", .text "dungeon")]),
    ("image_size_classes", texts ["img-large", "img-medium", "img-small"]),
    ("image_proxy_hosts", texts ["dofusdb.fr", "ganymede-app.com"]),
    ("guide_icon_marker", .text "images/texteditor/guides.png")]

/-- The pages of the alternate site. -/
def resourceMapping : Fields :=
  [("quest", .object []), ("dungeon", .object []), ("item", .object [])]

/-- The messages for readers. -/
def messages : Fields :=
  [("hidden_link", .text "hidden link"),
    ("download_failed", .text "Could not download the guide. Try again later."),
    ("action_failed", .text "The action could not be completed."),
    ("parse_failed", .text "The step content could not be read.")]

/-- How a line of the log is written. -/
def logFormat : Data :=
  .object [("simple", .object
    [("format", .text "%(asctime)s - %(name)s - %(levelname)s - %(message)s")])]

/-- The logging configuration. -/
def logging : Fields :=
  [("version", .int 1),
    ("disable_existing_loggers", .bool false),
    ("formatters", logFormat),
    ("handlers", .object
      [("console", .object
          [("class", .text "logging.StreamHandler"), ("formatter", .text "simple"),
            ("level", .text "WARNING")]),
        ("file", .object
          [("class", .text "logging.handlers.RotatingFileHandler"), ("formatter", .text "simple"),
            ("level", .text "DEBUG"), ("filename", .text "logs/app.log"),
            ("maxBytes", .int 1048576), ("backupCount", .int 3), ("encoding", .text "utf-8")])]),
    ("loggers", .object [("ganymede_toolkit", .object [("level", .text "INFO")])]),
    ("root", .object [("level", .text "INFO"), ("handlers", texts ["console", "file"])])]

end Packaged

/-- The packaged content of a part. -/
def Section.packaged : Section → Fields
  | .whitelist => [("origins", Packaged.texts Packaged.origins)]
  | .resourceLinks => Packaged.resourceLinks
  | .resourceMapping => Packaged.resourceMapping
  | .messages => Packaged.messages
  | .logging => Packaged.logging

end GuideMarkup
