import LedgerGateway.Calendar
import LedgerGateway.Decimal.Integer
import LedgerGateway.Log.Piece
import LedgerGateway.Text.LetterCase

/-!
# Layouts of a time stamp

A layout is a text with directives, each a percent sign and a letter that names a part of the
moment. Between the two may stand flags, a width and a modifier; the modifiers ask for the forms of
other cultures, which are the usual ones here, and do not suit every letter. The flags are `-` and
`_`, which fill with nothing or with spaces, `0`, which fills with zeros, and `^` and `#`, which
change the case of words. A directive that names nothing stands for itself.

There is only so much room for a time stamp: 256 characters for each one of the layout, rounded up
to a power of two, and 1024 at least. A time stamp that does not fit is left out altogether.
-/

namespace LedgerGateway.Log.DateFormat

/-- What fills a part up to its width. -/
inductive Fill where
  | usual
  | nothing
  | spaces
  | zeros
  deriving DecidableEq, Repr

/-- What stands between the percent sign and the letter of a directive. -/
structure Options where
  fill : Fill
  upper : Bool
  swap : Bool
  width : Option Nat
  modifier : Option Char
  deriving DecidableEq, Repr

/-- Nothing between the percent sign and the letter. -/
def Options.none : Options := ⟨.usual, false, false, Option.none, Option.none⟩

/-- The flags in front of a text, and how many characters they are. -/
def readFlags (o : Options) (count : Nat) : List Char → Options × Nat
  | '-' :: rest => readFlags { o with fill := .nothing } (count + 1) rest
  | '_' :: rest => readFlags { o with fill := .spaces } (count + 1) rest
  | '0' :: rest => readFlags { o with fill := .zeros } (count + 1) rest
  | '^' :: rest => readFlags { o with upper := true } (count + 1) rest
  | '#' :: rest => readFlags { o with swap := true } (count + 1) rest
  | _ => (o, count)

/-- The options in front of a text, and how many characters they are. -/
def readOptions (s : List Char) : Options × Nat :=
  let (o, count) := readFlags .none 0 s
  let ds := (s.drop count).takeWhile Char.isDigit
  let width := if ds.isEmpty then Option.none
    else some (ds.foldl (fun n c => n * 10 + (c.toNat - 48)) 0)
  let count := count + ds.length
  match s.drop count with
  | 'E' :: _ => ({ o with width, modifier := some 'E' }, count + 1)
  | 'O' :: _ => ({ o with width, modifier := some 'O' }, count + 1)
  | _ => ({ o with width }, count)

/-- Whether a modifier suits a letter. -/
def suits (modifier : Option Char) (letter : Char) : Bool :=
  match modifier with
  | some 'E' => !"aAbBdDeFgGhHIjklmMSUVwW".toList.contains letter
  | some _ => !"aAcDFxXY".toList.contains letter
  | Option.none => true

/-- Text behind as many characters as it takes to fill a width. -/
def padded (c : Char) (width : Nat) (s : List Char) : List Piece :=
  [.fill c (width - s.length), .text s]

/-- A word up to the width. Zeros fill it if they are asked for, and else spaces. -/
def word (o : Options) (cs : List Char) : List Piece :=
  padded (if o.fill = .zeros then '0' else ' ') (o.width.getD 0) cs

/-- A word as it stands, or in capitals if they are asked for. -/
def plainWord (o : Options) (s : String) : List Piece :=
  word o (if o.upper then s.toList.map Text.capitalLetter else s.toList)

/-- A word that a change of case puts in capitals. -/
def nameWord (o : Options) (s : String) : List Piece :=
  plainWord { o with upper := o.upper || o.swap } s

/-- A word in capitals that a change of case puts in small letters. -/
def capitalWord (o : Options) (s : String) : List Piece :=
  if o.swap then word o (s.toList.map Char.toLower) else plainWord o s

/-- A number with the digits that it has at least, up to the width. -/
def number (o : Options) (usual : Char) (digits : Nat) (n : Int) : List Piece :=
  let filler := match o.fill with
    | .usual => usual
    | .nothing => ' '
    | .spaces => ' '
    | .zeros => '0'
  let width := max (if o.fill = .nothing then 0 else digits) (o.width.getD 0)
  let body := Nat.toDigits 10 n.natAbs
  let sign := if n < 0 then ['-'] else []
  if filler = '0' then .text sign :: padded '0' (width - sign.length) body
  else padded ' ' width (sign ++ body)

/-- The days of the week from Sunday on. -/
def weekdays : List String :=
  ["Sunday", "Monday", "Tuesday", "Wednesday", "Thursday", "Friday", "Saturday"]

/-- The months. -/
def months : List String :=
  ["January", "February", "March", "April", "May", "June", "July", "August", "September",
   "October", "November", "December"]

/-- The first three letters of a word. -/
def short (s : String) : String := String.ofList (s.toList.take 3)

/-- The hour on a dial of twelve. -/
def dialHour (c : Clock) : Nat := if c.hour % 12 = 0 then 12 else c.hour % 12

/-- A number of two digits. -/
def two (n : Nat) : String := String.ofList (Piece.render (padded '0' 2 (Nat.toDigits 10 n)))

/-- A year and its last two digits. -/
def shortYear (year : Int) : Nat := (year.fmod 100).toNat

/-- The text of a directive for a moment of which the seconds since 1970 are known too; nothing if
the letter names nothing. -/
def part? (seconds : Int) (c : Clock) (o : Options) (letter : Char) : Option (List Piece) :=
  let plain (s : String) := some (plainWord o s)
  let name (s : String) := some (nameWord o s)
  let digits (count : Nat) (n : Int) := some (number o '0' count n)
  let spaced (n : Nat) := some (number o ' ' 2 n)
  let time := two c.hour ++ ":" ++ two c.minute ++ ":" ++ two c.second
  let slashes := two c.month ++ "/" ++ two c.day ++ "/" ++ two (shortYear c.year)
  let weekday := weekdays.getD c.weekday ""
  let month := months.getD (c.month - 1) ""
  let half := if c.hour < 12 then "AM" else "PM"
  match letter with
  | '%' => plain "%"
  | 'n' => plain "\n"
  | 't' => plain "\t"
  | 'a' => name (short weekday)
  | 'A' => name weekday
  | 'b' => name (short month)
  | 'h' => name (short month)
  | 'B' => name month
  | 'C' => digits 1 (c.year.fdiv 100)
  | 'd' => digits 2 c.day
  | 'e' => spaced c.day
  | 'H' => digits 2 c.hour
  | 'I' => digits 2 (dialHour c)
  | 'k' => spaced c.hour
  | 'l' => spaced (dialHour c)
  | 'j' => digits 3 (c.yearday + 1)
  | 'm' => digits 2 c.month
  | 'M' => digits 2 c.minute
  | 'S' => digits 2 c.second
  | 's' => plain (Decimal.intText seconds)
  | 'u' => digits 1 (if c.weekday = 0 then 7 else c.weekday)
  | 'w' => digits 1 c.weekday
  | 'U' => digits 2 (c.weekFrom 0)
  | 'W' => digits 2 (c.weekFrom 1)
  | 'V' => digits 2 c.isoWeek.2
  | 'G' => digits 1 c.isoWeek.1
  | 'g' => digits 2 (shortYear c.isoWeek.1)
  | 'y' => digits 2 (shortYear c.year)
  | 'Y' => digits 1 c.year
  | 'p' => some (capitalWord o half)
  | 'P' => some (word o half.toLower.toList)
  | 'T' => plain time
  | 'X' => plain time
  | 'R' => plain (two c.hour ++ ":" ++ two c.minute)
  | 'r' => plain (two (dialHour c) ++ ":" ++ two c.minute ++ ":" ++ two c.second ++ " " ++ half)
  | 'D' => plain slashes
  | 'x' => plain slashes
  | 'F' => plain s!"{c.year}-{two c.month}-{two c.day}"
  | 'c' =>
    let day := String.ofList (Piece.render (padded ' ' 2 (Nat.toDigits 10 c.day)))
    plain s!"{short weekday} {short month} {day} {time} {c.year}"
  | 'z' => some (word o ['+'] ++ number o '0' 4 0)
  | 'Z' => some (capitalWord o "GMT")
  | _ => none

/-- A directive, given the text behind its percent sign, that stands for itself. The short names of
months change their case even so. -/
def verbatim (o : Options) (letter : Option Char) (directive : List Char) : List Piece :=
  let shown := String.ofList ('%' :: directive)
  if letter = some 'b' ∨ letter = some 'h' then nameWord o shown else plainWord o shown

/-- Fills in the directives of a layout. A directive without a letter stands for itself. -/
def fillFrom (seconds : Int) (c : Clock) (s : List Char) : List Piece :=
  match s with
  | [] => []
  | '%' :: rest =>
    let (o, count) := readOptions rest
    let letter := (rest.drop count).head?
    let part := match letter with
      | some letter => if suits o.modifier letter then part? seconds c o letter else none
      | none => none
    part.getD (verbatim o letter (rest.take (count + 1)))
      ++ fillFrom seconds c (rest.drop (count + 1))
  | d :: rest => .text [d] :: fillFrom seconds c rest
termination_by s.length
decreasing_by all_goals simp only [List.length_cons, List.length_drop]; omega

/-- A size, doubled until it is at least the wanted one. -/
def doubled (size wanted : Nat) : Nat :=
  if size < wanted ∧ 0 < size then doubled (2 * size) wanted else size
termination_by wanted - size
decreasing_by omega

/-- How many characters there is room for, the end of the text included. -/
def room (layout : String) : Nat := doubled 1024 (256 * layout.length)

/-- The text of a moment in universal time. -/
def fill (layout : String) (seconds : Int) : String :=
  let pieces := fillFrom seconds (Clock.ofSeconds seconds) layout.toList
  if Piece.sizeOfAll pieces < room layout then String.ofList (Piece.render pieces) else ""

end LedgerGateway.Log.DateFormat
