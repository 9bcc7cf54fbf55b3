import LedgerGateway.Datum.Basic
import LedgerGateway.Decimal.Places
import LedgerGateway.Hex.Digit
import LedgerGateway.Log.FaultFamily
import LedgerGateway.Log.Piece

/-!
# Templates

A template is a text with directives, each a percent sign, an optional key in parentheses, flags, a
width, a precision and a letter that says how a value is written. The values come from a list, one
for each directive, or from a table, by the directive's key. An asterisk in place of the width or
the precision takes a value for it.

The result is a list of pieces, so a template can be checked without writing what may be very long.
What could not be written at all is a fault: there is a bound on how long a text can be, and one on
how deep data may lie that are shown.
-/

namespace LedgerGateway.Log

open Decimal (Binary64)

/-- What bounds the texts that can be made. -/
structure Bounds where
  /-- The most characters that a text can have. -/
  room : Nat
  /-- How deep data may lie that are shown. -/
  depth : Nat
  deriving DecidableEq, Repr

namespace Template

/-! ## Faults -/

/-- Why a template could not be filled in. -/
inductive Fault where
  | incompleteKey
  | incomplete
  | widthTooBig
  | precisionTooBig
  | unsupported (c : Char) (index : Nat)
  | notEnough
  | notAll
  | needsMapping
  | starNeedsInteger
  | needsReal (letter : Char) (kind : String)
  | needsInteger (letter : Char) (kind : String)
  | needsFloat (kind : String)
  | needsCharacter
  | characterRange
  | infiniteInteger
  | notANumber
  | floatRange
  | widthRange
  | precisionRange
  | precisionTooLarge
  | missingKey (key : String)
  /-- A value cannot be shown. -/
  | unwritable (fault : Datum.LiteralFault)
  /-- The text could not be written. -/
  | tooLong
  deriving DecidableEq, Repr

/-- The family of a fault. -/
def Fault.family : Fault → FaultFamily
  | .incompleteKey => .value
  | .incomplete => .value
  | .widthTooBig => .value
  | .precisionTooBig => .value
  | .unsupported _ _ => .value
  | .notANumber => .value
  | .characterRange => .overflow
  | .infiniteInteger => .overflow
  | .floatRange => .overflow
  | .widthRange => .overflow
  | .precisionRange => .overflow
  | .precisionTooLarge => .overflow
  | .missingKey _ => .key
  | .unwritable .tooManyDigits => .value
  | .unwritable .tooDeep => .recursion
  | .tooLong => .memory
  | _ => .kind

/-- A code point in base sixteen. -/
def codePoint (c : Char) : String := String.ofList (Hex.digits c.toNat)

/-- The wording of a fault. -/
def Fault.message : Fault → String
  | .incompleteKey => "incomplete format key"
  | .incomplete => "incomplete format"
  | .widthTooBig => "width too big"
  | .precisionTooBig => "precision too big"
  | .unsupported c index =>
    let shown := String.ofList [if 31 ≤ c.toNat ∧ c.toNat < 127 then c else '?']
    s!"unsupported format character '{shown}' (0x{codePoint c}) at index {index}"
  | .notEnough => "not enough arguments for format string"
  | .notAll => "not all arguments converted during string formatting"
  | .needsMapping => "format requires a mapping"
  | .starNeedsInteger => "* wants int"
  | .needsReal letter kind => s!"%{letter} format: a real number is required, not {kind}"
  | .needsInteger letter kind => s!"%{letter} format: an integer is required, not {kind}"
  | .needsFloat kind => s!"must be real number, not {kind}"
  | .needsCharacter => "%c requires int or char"
  | .characterRange => "%c arg not in range(0x110000)"
  | .infiniteInteger => "cannot convert float infinity to integer"
  | .notANumber => "cannot convert float NaN to integer"
  | .floatRange => "int too large to convert to float"
  | .widthRange => "Python int too large to convert to C ssize_t"
  | .precisionRange => "Python int too large to convert to C int"
  | .precisionTooLarge => "precision too large"
  | .missingKey key => Text.quoted key
  | .unwritable fault => fault.message
  | .tooLong => ""

/-! ## Values -/

/-- The values that directives take. -/
structure Supply where
  /-- The table that keys look into, if there is one. -/
  table : Option (List (String × Datum))
  /-- The values that are still to be taken. -/
  values : List Datum

/-- Values from a list. -/
def Supply.ofList (values : List Datum) : Supply := ⟨none, values⟩

/-- Values from a table. A directive without a key takes the table itself. -/
def Supply.ofTable (entries : List (String × Datum)) : Supply := ⟨some entries, [.table entries]⟩

/-- Takes the next value. -/
def Supply.take (s : Supply) : Except Fault (Datum × Supply) :=
  match s.values with
  | [] => .error .notEnough
  | v :: rest => .ok (v, { s with values := rest })

/-- Makes the value of a key the next one. -/
def Supply.select (s : Supply) (key : String) : Except Fault Supply :=
  match s.table with
  | none => .error .needsMapping
  | some entries =>
    match entries.lookup key with
    | none => .error (.missingKey key)
    | some v => .ok { s with values := [v] }

/-! ## Directives -/

/-- How a directive lays out a value. -/
structure Layout where
  left : Bool
  plus : Bool
  space : Bool
  alternate : Bool
  zero : Bool
  width : Nat
  precision : Option Nat
  deriving DecidableEq, Repr

/-- The layout without flags, width and precision. -/
def Layout.plain : Layout := ⟨false, false, false, false, false, 0, none⟩

/-- The key behind an opening parenthesis, and the text behind the closing one. Parentheses inside
a key have to match. -/
def readKey (depth : Nat) (acc : List Char) : List Char → Option (List Char × List Char)
  | [] => none
  | ')' :: rest =>
    match depth with
    | 0 => some (acc.reverse, rest)
    | depth + 1 => readKey depth (')' :: acc) rest
  | '(' :: rest => readKey (depth + 1) ('(' :: acc) rest
  | c :: rest => readKey depth (c :: acc) rest

/-- The flags in front of a text, and the text behind them. -/
def readFlags (l : Layout) : List Char → Layout × List Char
  | '-' :: rest => readFlags { l with left := true } rest
  | '+' :: rest => readFlags { l with plus := true } rest
  | ' ' :: rest => readFlags { l with space := true } rest
  | '#' :: rest => readFlags { l with alternate := true } rest
  | '0' :: rest => readFlags { l with zero := true } rest
  | s => (l, s)

/-- The number of ASCII digits in front of a text, if there are any, and the text behind them. -/
def readNumber (s : List Char) : Option (Nat × List Char) :=
  let ds := s.takeWhile Char.isDigit
  if ds.isEmpty then none
  else some (ds.foldl (fun n c => n * 10 + (c.toNat - 48)) 0, s.drop ds.length)

/-- The integer of a datum that is one. -/
def asInteger? : Datum → Option Int
  | .int n => some n
  | .bool b => some (if b then 1 else 0)
  | _ => none

/-- Takes an integer for an asterisk. -/
def takeStar (s : Supply) : Except Fault (Int × Supply) := do
  let (v, s) ← s.take
  match asInteger? v with
  | some n => .ok (n, s)
  | none => .error .starNeedsInteger

/-- The width in front of a text. A negative one asks for the left side. -/
def readWidth (l : Layout) (s : Supply) (cs : List Char) :
    Except Fault (Layout × Supply × List Char) :=
  match cs with
  | '*' :: rest => do
    let (n, s) ← takeStar s
    if n < Int64.minValue.toInt ∨ Int64.maxValue.toInt < n then .error .widthRange
    .ok ({ l with width := n.natAbs, left := l.left || n < 0 }, s, rest)
  | _ =>
    match readNumber cs with
    | none => .ok (l, s, cs)
    | some (n, rest) =>
      if Int64.maxValue.toInt < n then .error .widthTooBig else .ok ({ l with width := n }, s, rest)

/-- The precision in front of a text. A negative one is zero. -/
def readPrecision (l : Layout) (s : Supply) (cs : List Char) :
    Except Fault (Layout × Supply × List Char) :=
  match cs with
  | '.' :: '*' :: rest => do
    let (n, s) ← takeStar s
    if n < Int32.minValue.toInt ∨ Int32.maxValue.toInt < n then .error .precisionRange
    .ok ({ l with precision := some n.toNat }, s, rest)
  | '.' :: rest =>
    match readNumber rest with
    | none => .ok ({ l with precision := some 0 }, s, rest)
    | some (n, rest) =>
      if Int32.maxValue.toInt < n then .error .precisionTooBig
      else .ok ({ l with precision := some n }, s, rest)
  | _ => .ok (l, s, cs)

/-- The text behind a letter for the size of a number, which does not count. -/
def skipSize : List Char → List Char
  | c :: rest => if c = 'h' ∨ c = 'l' ∨ c = 'L' then rest else c :: rest
  | [] => []

/-! ## Writing values -/

/-- A value as it is written, before it is laid out. -/
structure Written where
  /-- Whether zeros may fill the width. -/
  numeric : Bool
  negative : Bool
  /-- The mark of a base. -/
  mark : List Char
  /-- Zeros in front of the digits. -/
  zeros : Nat
  body : List Char
  /-- Zeros behind the digits. -/
  more : Nat
  /-- What stands behind those zeros. -/
  tail : List Char

/-- Text, cut to the precision. -/
def Written.ofText (l : Layout) (cs : List Char) : Written :=
  let cs := match l.precision with
    | none => cs
    | some n => cs.take n
  ⟨false, false, [], 0, cs, 0, []⟩

/-- The digits of a number in base eight. -/
def octal (n : Nat) : List Char := Nat.toDigits 8 n

/-- The highest precision that an integer is written with. -/
def integerPrecision : Nat := 0x7FFFFFFC

/-- An integer, with at least as many digits as the precision. Only in base ten there is a limit on
how many digits it may have. -/
def Written.ofInt (l : Layout) (letter : Char) (n : Int) : Except Fault Written :=
  let precision := l.precision.getD 0
  let digits := match letter with
    | 'x' => Hex.digits n.natAbs
    | 'X' => (Hex.digits n.natAbs).map Char.toUpper
    | 'o' => octal n.natAbs
    | _ => Decimal.digits n.natAbs
  let based := letter = 'x' ∨ letter = 'X' ∨ letter = 'o'
  if integerPrecision < precision then .error .precisionTooLarge
  else if ¬ based ∧ ¬ Decimal.isShort n then .error (.unwritable .tooManyDigits)
  else
    .ok ⟨true, n < 0, if l.alternate ∧ based then ['0', letter] else [],
      precision - digits.length, digits, 0, []⟩

/-- More places and digits than any finite number has; all further ones are zeros. -/
def enoughPlaces : Nat := 1100

/-- A finite number, with no more places than it has. -/
def finiteText (l : Layout) (letter : Char) (places : Nat) (r : Decimal.Ratio) : List Char :=
  match letter.toLower with
  | 'e' => r.exponential places l.alternate
  | 'f' => r.fixed places l.alternate
  | _ => r.general places l.alternate

/-- A floating point number, with six places unless the precision says otherwise. The places that no
number has are zeros, which stand in front of a power of ten. -/
def Written.ofFloat (l : Layout) (letter : Char) (x : Binary64) : Written :=
  let places := l.precision.getD 6
  let cased (s : List Char) := if letter.isUpper then s.map Char.toUpper else s
  match x with
  | .finite _ mantissa exponent =>
    let text := finiteText l letter (min places enoughPlaces) (Binary64.magnitude mantissa exponent)
    let front := text.takeWhile (· ≠ 'e')
    let keepsZeros := letter.toLower ≠ 'g' || l.alternate
    ⟨true, x.isNegative, [], 0, front, if keepsZeros then places - enoughPlaces else 0,
      cased (text.drop front.length)⟩
  | .infinite _ => ⟨true, x.isNegative, [], 0, cased ['i', 'n', 'f'], 0, []⟩
  | .nan => ⟨true, x.isNegative, [], 0, cased ['n', 'a', 'n'], 0, []⟩

/-- The text of a datum, with room for data down to the given depth. -/
def textOf (depth : Nat) (d : Datum) : Except Fault (List Char) :=
  match d.textFault? depth with
  | some fault => .error (.unwritable fault)
  | none => .ok d.text.toList

/-- The literal of a datum, with room for data down to the given depth. -/
def literalOf (depth : Nat) (d : Datum) : Except Fault (List Char) :=
  match d.literalFault? depth with
  | some fault => .error (.unwritable fault)
  | none => .ok d.literal.toList

/-- A text in ASCII. -/
def inAscii (cs : List Char) : List Char :=
  cs.flatMap fun c => if c.toNat < 128 then [c] else Text.numberedEscape c.toNat

/-- The integer that a datum is written as. -/
def integerOf (letter : Char) (d : Datum) : Except Fault Int :=
  match d with
  | .int n => .ok n
  | .bool b => .ok (if b then 1 else 0)
  | .float x =>
    match x.truncate? with
    | some n => .ok n
    | none => .error (if x = .nan then .notANumber else .infiniteInteger)
  | d => .error (.needsReal letter d.kind)

/-- The integer of a datum that is written in another base. -/
def wholeOf (letter : Char) (d : Datum) : Except Fault Int :=
  match asInteger? d with
  | some n => .ok n
  | none => .error (.needsInteger letter d.kind)

/-- The floating point number that a datum is written as. -/
def floatOf (d : Datum) : Except Fault Binary64 :=
  match d with
  | .float x => .ok x
  | d =>
    match asInteger? d with
    | some n =>
      match Binary64.ofInt n with
      | .infinite _ => .error .floatRange
      | x => .ok x
    | none => .error (.needsFloat d.kind)

/-- The character that a datum is written as. -/
def characterOf (d : Datum) : Except Fault Char :=
  match d with
  | .string s =>
    match s.toList with
    | [c] => .ok c
    | _ => .error .needsCharacter
  | d =>
    match asInteger? d with
    | some n =>
      if 0 ≤ n ∧ n < 0x110000 then .ok (Char.ofNat n.toNat) else .error .characterRange
    | none => .error .needsCharacter

/-- Writes a datum as a letter says; nothing if no value is written so. -/
def write? (depth : Nat) (l : Layout) (letter : Char) (d : Datum) :
    Option (Except Fault Written) :=
  match letter with
  | 's' => some ((textOf depth d).map (.ofText l))
  | 'r' => some ((literalOf depth d).map (.ofText l))
  | 'a' => some ((literalOf depth d).map fun cs => .ofText l (inAscii cs))
  | 'c' => some ((characterOf d).map fun c => ⟨false, false, [], 0, [c], 0, []⟩)
  | 'd' => some ((integerOf letter d).bind (Written.ofInt l letter))
  | 'i' => some ((integerOf letter d).bind (Written.ofInt l letter))
  | 'u' => some ((integerOf letter d).bind (Written.ofInt l letter))
  | 'x' => some ((wholeOf letter d).bind (Written.ofInt l letter))
  | 'X' => some ((wholeOf letter d).bind (Written.ofInt l letter))
  | 'o' => some ((wholeOf letter d).bind (Written.ofInt l letter))
  | 'e' => some ((floatOf d).map (.ofFloat l letter))
  | 'E' => some ((floatOf d).map (.ofFloat l letter))
  | 'f' => some ((floatOf d).map (.ofFloat l letter))
  | 'F' => some ((floatOf d).map (.ofFloat l letter))
  | 'g' => some ((floatOf d).map (.ofFloat l letter))
  | 'G' => some ((floatOf d).map (.ofFloat l letter))
  | _ => none

/-- The sign in front of a number. -/
def signOf (l : Layout) (w : Written) : List Char :=
  if !w.numeric then []
  else if w.negative then ['-']
  else if l.plus then ['+']
  else if l.space then [' ']
  else []

/-- Fills the width: with spaces behind, or zeros behind the sign, or spaces in front. -/
def lay (l : Layout) (w : Written) : List Piece :=
  let sign := signOf l w
  let number := [.fill '0' w.zeros, .text w.body, .fill '0' w.more, .text w.tail]
  let whole := Piece.text (sign ++ w.mark) :: number
  let room := l.width - Piece.sizeOfAll whole
  if l.left then whole ++ [.fill ' ' room]
  else if w.numeric && l.zero then .text (sign ++ w.mark) :: .fill '0' room :: number
  else .fill ' ' room :: whole

/-! ## Filling in -/

/-- What is written of a template, up to the fault that stopped the writing if there is one. -/
structure Draft where
  pieces : List Piece
  fault : Option Fault

/-- A draft with pieces in front. -/
def Draft.behind (pieces : List Piece) (d : Draft) : Draft :=
  { d with pieces := pieces ++ d.pieces }

/-- What is written in the end: a text becomes too long before a fault behind it is met. -/
def Draft.finish (room : Nat) (d : Draft) : Except Fault (List Piece) :=
  if room < Piece.sizeOfAll d.pieces then .error .tooLong
  else
    match d.fault with
    | some fault => .error fault
    | none => .ok d.pieces

/-- The key of a directive, if it has one, and the text behind it. -/
def chooseKey (s : Supply) (cs : List Char) : Except Fault (Supply × List Char) :=
  match cs with
  | '(' :: rest =>
    if s.table.isNone then .error .needsMapping
    else
      match readKey 0 [] rest with
      | none => .error .incompleteKey
      | some (key, rest) => (s.select (String.ofList key)).map (·, rest)
  | cs => .ok (s, cs)

/-- Checks that a directive took the value of its key. -/
def checkTaken (s : Supply) : Except Fault Supply :=
  if s.table.isSome && !s.values.isEmpty then .error .notAll else .ok s

/-- Fills in a directive, given the length of the template and the text behind the percent sign. -/
def fillOne (depth length : Nat) (s : Supply) (cs : List Char) :
    Except Fault (List Piece × Supply × List Char) := do
  let (s, cs) ← chooseKey s cs
  let (l, cs) := readFlags .plain cs
  let (l, s, cs) ← readWidth l s cs
  let (l, s, cs) ← readPrecision l s cs
  match skipSize cs with
  | [] => .error .incomplete
  | letter :: rest => do
    let (v, s) ← s.take
    match write? depth l letter v with
    | none => .error (.unsupported letter (length - (rest.length + 1)))
    | some written => do
      let w ← written
      let s ← checkTaken s
      .ok (lay l w, s, rest)

/-- Fills in the directives of a text. Each step takes at least one character. -/
def fillFrom (depth length : Nat) (s : Supply) (cs : List Char) : Draft :=
  match cs with
  | [] => ⟨[], if s.table.isNone && !s.values.isEmpty then some .notAll else none⟩
  | '%' :: '%' :: rest => (fillFrom depth length s rest).behind [.text ['%']]
  | '%' :: rest =>
    match fillOne depth length s rest with
    | .error e => ⟨[], some e⟩
    | .ok (pieces, s, rest') =>
      if rest'.length ≤ rest.length then (fillFrom depth length s rest').behind pieces
      else ⟨[], some .incomplete⟩
  | c :: rest => (fillFrom depth length s rest).behind [.text [c]]
termination_by cs.length
decreasing_by all_goals simp only [List.length_cons]; omega

/-- Fills in a template. -/
def fill (b : Bounds) (template : String) (s : Supply) : Except Fault (List Piece) :=
  let cs := template.toList
  (fillFrom b.depth cs.length s cs).finish b.room

end Template

end LedgerGateway.Log
