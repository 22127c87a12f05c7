/-!
The level from which entries are kept. It is given by a word in any case; a word that names nothing
stands for `INFO`, and one that names something else than a level is refused. Only the first setting
counts.
-/

namespace CypherLink

/-- The capitals of a letter, as far as they are in ASCII: beside the letters of ASCII, those of the
dotless i, of the long s and of the two ligatures of s and t. -/
def capitals (c : Char) : List Char :=
  if c = 'ı' then ['I']
  else if c = 'ſ' then ['S']
  else if c = 'ﬅ' ∨ c = 'ﬆ' then ['S', 'T']
  else [c.toUpper]

def levelWords : List (String × Nat) :=
  [("NOTSET", 0), ("DEBUG", 10), ("INFO", 20), ("WARN", 30), ("WARNING", 30), ("ERROR", 40),
    ("CRITICAL", 50), ("FATAL", 50)]

/-- Why a word is no level: it names a layout of entries, or the table of the styles of layouts. -/
inductive LevelError where
  | layout
  | styles
  deriving DecidableEq

def LevelError.message : LevelError → String
  | .layout => "Unknown level: '%(levelname)s:%(name)s:%(message)s'"
  | .styles =>
    "Level not an integer or a valid string: \x7b'%': (<class 'logging.PercentStyle'>, " ++
      "'%(levelname)s:%(name)s:%(message)s'), '\x7b': (<class 'logging.StrFormatStyle'>, " ++
      "'\x7blevelname\x7d:\x7bname\x7d:\x7bmessage\x7d'), '$': " ++
      "(<class 'logging.StringTemplateStyle'>, " ++
      "'$\x7blevelname\x7d:$\x7bname\x7d:$\x7bmessage\x7d')\x7d"

def levelOf (word : String) : Except LevelError Nat :=
  let word := String.ofList (word.toList.flatMap capitals)
  if word = "BASIC_FORMAT" then .error .layout
  else if word = "_STYLES" then .error .styles
  else .ok ((levelWords.lookup word).getD 20)

/-- The level of the root logger, and whether it has been set. -/
structure RootLogger where
  level : Nat := 30
  configured : Bool := false
  deriving DecidableEq

namespace RootLogger

/-- A level that is refused leaves the old one, and is not asked for again. -/
def configure (r : RootLogger) (word : String) : RootLogger :=
  if r.configured then r else ⟨(levelOf word).toOption.getD r.level, true⟩

def refusal? (r : RootLogger) (word : String) : Option LevelError :=
  match r.configured, levelOf word with
  | false, .error e => some e
  | _, _ => none

theorem configure_configure (r : RootLogger) (first second : String) :
    (r.configure first).configure second = r.configure first := by
  by_cases h : r.configured = true <;> simp [configure, h]

theorem refusal?_configure (r : RootLogger) (first second : String) :
    (r.configure first).refusal? second = none := by
  by_cases h : r.configured = true <;> simp [configure, refusal?, h]

/-- A component logs under its own name; the empty name is the root's. -/
def loggerName (component : String) : String := if component = "" then "root" else component

end RootLogger

end CypherLink
