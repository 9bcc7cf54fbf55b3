/-!
# Levels of the log

A level is a number; the higher, the more serious. Six levels have a name, some of them two.
Settings name a level in letters of any case, and a name that is unknown stands for the usual level.

Two further names are taken by things that are no levels, and are refused: the layout of a plain
log line, and the table of layout styles.
-/

namespace LedgerGateway.Log

/-- The names of levels. -/
def levelNames : List (String × Int) :=
  [("CRITICAL", 50), ("FATAL", 50), ("ERROR", 40), ("WARNING", 30), ("WARN", 30), ("INFO", 20),
   ("DEBUG", 10), ("NOTSET", 0)]

/-- The level of a warning. -/
def warningLevel : Int := 30

/-- The level of an error. -/
def errorLevel : Int := 40

/-- The level of information. -/
def infoLevel : Int := 20

/-- The level that an unknown name stands for. -/
def usualLevel : Int := infoLevel

/-- The name of a level, as log lines show it. -/
def levelName (level : Int) : String :=
  match levelNames.find? fun entry => entry.2 = level with
  | some entry => entry.1
  | none => s!"Level {level}"

/-- A name that stands for something that is no level. -/
inductive LevelFault where
  | plainLayout
  | layoutStyles
  deriving DecidableEq, Repr

/-- The wording of a fault. -/
def LevelFault.message : LevelFault → String
  | .plainLayout => "Unknown level: '%(levelname)s:%(name)s:%(message)s'"
  | .layoutStyles =>
    "Level not an integer or a valid string: \x7b'%': (<class 'logging.PercentStyle'>, '%(levelname)s:%(name)s:%(message)s'), '\x7b': (<class 'logging.StrFormatStyle'>, '\x7blevelname\x7d:\x7bname\x7d:\x7bmessage\x7d'), '$': (<class 'logging.StringTemplateStyle'>, '$\x7blevelname\x7d:$\x7bname\x7d:$\x7bmessage\x7d')\x7d"

/-- The capitals of a letter, as far as the names of levels go: besides the ASCII letters these are
the dotless i, the long s, and the two ligatures of s and t. -/
def capitals (c : Char) : List Char :=
  match c with
  | '\u0131' => ['I']
  | '\u017f' => ['S']
  | '\ufb05' => ['S', 'T']
  | '\ufb06' => ['S', 'T']
  | c => [c.toUpper]

/-- The level that a name stands for. -/
def levelOf (name : String) : Except LevelFault Int :=
  let name := String.ofList (name.toList.flatMap capitals)
  if name = "BASIC_FORMAT" then .error .plainLayout
  else if name = "_STYLES" then .error .layoutStyles
  else .ok ((levelNames.lookup name).getD usualLevel)

end LedgerGateway.Log
