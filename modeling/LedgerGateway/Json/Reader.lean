import LedgerGateway.Association
import LedgerGateway.Decimal.Integer
import LedgerGateway.Hex.Digit
import LedgerGateway.Json.Basic
import LedgerGateway.Text.Position
import LedgerGateway.Text.Unread

/-!
# Reading JSON

The reader takes the text from the left and reports the first thing that does not fit. Every part
of it returns what it left unread, together with a proof that this is shorter, so the loops end. It
is more liberal than the standard in three points: `NaN`, `Infinity` and `-Infinity` are numbers,
a name may occur twice in an object, and half a surrogate pair in an escape is read as U+FFFD.
-/

namespace LedgerGateway.Json

open Decimal (Binary64)
open Text.Unread

/-- What is wrong with a text that is not JSON. -/
inductive Problem where
  | expectingValue
  | expectingName
  | expectingColon
  | expectingComma
  | extraData
  | unterminatedString
  | controlCharacter
  | badEscape
  | badUnicodeEscape
  | byteOrderMark
  deriving DecidableEq, Repr

/-- The wording of a problem. -/
def Problem.message : Problem → String
  | .expectingValue => "Expecting value"
  | .expectingName => "Expecting property name enclosed in double quotes"
  | .expectingColon => "Expecting ':' delimiter"
  | .expectingComma => "Expecting ',' delimiter"
  | .extraData => "Extra data"
  | .unterminatedString => "Unterminated string starting at"
  | .controlCharacter => "Invalid control character at"
  | .badEscape => "Invalid \\escape"
  | .badUnicodeEscape => "Invalid \\uXXXX escape"
  | .byteOrderMark => "Unexpected UTF-8 BOM (decode using utf-8-sig)"

/-- The two kinds of value that hold others. -/
inductive Container where
  | array
  | object
  deriving DecidableEq, Repr

/-- Why reading stopped. -/
inductive Stop where
  /-- Something does not fit; the text from there on. -/
  | malformed (problem : Problem) (unread : List Char)
  /-- An integer has too many digits. -/
  | tooManyDigits (count : Nat)
  /-- A value lies too deep inside others. -/
  | tooDeep (container : Container)
  deriving DecidableEq, Repr

/-- The four characters that may stand between the parts of a value. -/
def isGap (c : Char) : Bool := c = ' ' || c = '\t' || c = '\n' || c = '\r'

/-- The text without the gap in front. -/
def skipGap (s : List Char) : UpTo s := skip isGap s

/-! ## Strings -/

/-- The character of an escape of one letter. -/
def shortEscape? : Char → Option Char
  | '"' => some '"'
  | '\\' => some '\\'
  | '/' => some '/'
  | 'b' => some '\x08'
  | 'f' => some '\x0c'
  | 'n' => some '\n'
  | 'r' => some '\r'
  | 't' => some '\t'
  | _ => none

/-- A code unit in four digits. The text has to go on behind them. -/
def readUnit (s : List Char) : Option (Nat × After s) :=
  match s with
  | a :: b :: c :: d :: e :: rest =>
    (Hex.value? [a, b, c, d]).map fun unit => (unit, drop a (b :: c :: d :: e :: rest) 4)
  | _ => none

/-- Whether a code unit is the first half of a pair. -/
def isHighHalf (unit : Nat) : Bool := 0xD800 ≤ unit && unit < 0xDC00

/-- Whether a code unit is the second half of a pair. -/
def isLowHalf (unit : Nat) : Bool := 0xDC00 ≤ unit && unit < 0xE000

/-- The code point of a pair of halves. -/
def joinHalves (high low : Nat) : Nat := 0x10000 + (high - 0xD800) * 0x400 + (low - 0xDC00)

/-- The character of a code unit that stands alone; half a pair becomes U+FFFD. -/
def unitChar (unit : Nat) : Char :=
  if isHighHalf unit || isLowHalf unit then '\uFFFD' else Char.ofNat unit

/-- The character of a numbered escape, given the text behind its `u`. Two escapes that are the
halves of a pair are taken together. -/
def readNumbered (s : List Char) : Option (Char × After s) :=
  match readUnit s with
  | none => none
  | some (unit, ⟨rest, shorter⟩) =>
    let alone := some (unitChar unit, ⟨rest, shorter⟩)
    if isHighHalf unit then
      match rest, shorter with
      | '\\' :: 'u' :: more, shorter =>
        match readUnit more with
        | some (low, rest') =>
          if isLowHalf low then
            some (Char.ofNat (joinHalves unit low), chain shorter (past '\\' (past 'u' rest')))
          else alone
        | none => alone
      | _, _ => alone
    else alone

/-- The rest of a string, given the text from its opening quote on, what was read of it (last
character first) and the text behind that. -/
def readBody (opening acc s : List Char) : Except Stop (List Char × After s) :=
  match s with
  | [] => .error (.malformed .unterminatedString opening)
  | '"' :: rest => .ok (acc.reverse, tail '"' rest)
  | '\\' :: [] => .error (.malformed .unterminatedString opening)
  | '\\' :: 'u' :: rest =>
    match readNumbered rest with
    | none => .error (.malformed .badUnicodeEscape ('u' :: rest))
    | some (c, ⟨rest', shorter⟩) =>
      match readBody opening (c :: acc) rest' with
      | .error e => .error e
      | .ok (text, r) => .ok (text, past '\\' (past 'u' (chain shorter r)))
  | '\\' :: e :: rest =>
    match shortEscape? e with
    | none => .error (.malformed .badEscape s)
    | some c =>
      match readBody opening (c :: acc) rest with
      | .error e => .error e
      | .ok (text, r) => .ok (text, past '\\' (past e r))
  | c :: rest =>
    if c.toNat < 0x20 then .error (.malformed .controlCharacter s)
    else
      match readBody opening (c :: acc) rest with
      | .error e => .error e
      | .ok (text, r) => .ok (text, past c r)
termination_by s.length
decreasing_by all_goals simp only [List.length_cons]; omega

/-! ## Numbers -/

/-- A number as it is spelt. -/
structure Numeral where
  /-- Whether a minus sign stands in front. -/
  negative : Bool
  /-- The first digit of the whole part. -/
  first : Char
  /-- The other digits of the whole part. -/
  more : List Char
  /-- The digits behind the point; none if there is no point. -/
  fraction : List Char
  /-- What stands between the letter of the exponent and its digits, and the digits. -/
  exponent : Option (List Char × List Char)
  deriving DecidableEq, Repr

namespace Numeral

/-- How many characters a fraction takes. -/
def fractionLength (fraction : List Char) : Nat :=
  if fraction.isEmpty then 0 else fraction.length + 1

/-- How many characters an exponent takes. -/
def exponentLength : Option (List Char × List Char) → Nat
  | none => 0
  | some (sign, ds) => sign.length + ds.length + 1

/-- How many characters the numeral takes. -/
def length (n : Numeral) : Nat :=
  (if n.negative then 1 else 0) + n.more.length + fractionLength n.fraction
    + exponentLength n.exponent + 1

/-- The digits of the whole part behind its first one. A whole part that begins with zero is just
that zero. -/
def scanMore (first : Char) (rest : List Char) : List Char :=
  if first = '0' then [] else rest.takeWhile Char.isDigit

/-- The digits of the fraction, if a point and a digit come next. -/
def scanFraction : List Char → List Char
  | '.' :: rest => rest.takeWhile Char.isDigit
  | _ => []

/-- What follows the fraction. -/
def behindFraction (s : List Char) : List Char :=
  s.drop (fractionLength (scanFraction s))

/-- The sign in front of the digits of an exponent. -/
def scanSign : List Char → List Char
  | '+' :: _ => ['+']
  | '-' :: _ => ['-']
  | _ => []

/-- The sign and the digits of the exponent, if one comes next. -/
def scanExponent : List Char → Option (List Char × List Char)
  | c :: rest =>
    if c = 'e' ∨ c = 'E' then
      let sign := scanSign rest
      let ds := (rest.drop sign.length).takeWhile Char.isDigit
      if ds.isEmpty then none else some (sign, ds)
    else none
  | [] => none

/-- The longest numeral in front of a text. -/
def scan (s : List Char) : Option Numeral :=
  let negative := s.head? = some '-'
  match if negative then s.drop 1 else s with
  | [] => none
  | first :: rest =>
    if first.isDigit then
      let more := scanMore first rest
      let rest := rest.drop more.length
      some ⟨negative, first, more, scanFraction rest, scanExponent (behindFraction rest)⟩
    else none

/-- The number that ASCII digits spell. -/
def ofDigits (ds : List Char) : Nat := ds.foldl (fun n c => n * 10 + (c.toNat - 48)) 0

/-- The number of the exponent. -/
def exponentValue : Option (List Char × List Char) → Int
  | none => 0
  | some (sign, ds) => if sign = ['-'] then -(ofDigits ds : Int) else ofDigits ds

/-- Whether the numeral has neither fraction nor exponent. -/
def isInteger (n : Numeral) : Bool := n.fraction.isEmpty && n.exponent.isNone

/-- How many digits the whole part has. -/
def count (n : Numeral) : Nat := n.more.length + 1

/-- The number that the numeral spells. -/
def number (n : Numeral) : Json :=
  if n.isInteger then .int (Binary64.signed n.negative (ofDigits (n.first :: n.more)))
  else
    .float (Binary64.ofDecimal n.negative (ofDigits (n.first :: n.more ++ n.fraction))
      (exponentValue n.exponent - n.fraction.length))

/-- The number, unless it is an integer of too many digits. -/
def value (n : Numeral) : Except Stop Json :=
  if n.isInteger && Decimal.digitLimit < n.count then .error (.tooManyDigits n.count)
  else .ok n.number

end Numeral

/-! ## Values -/

/-- The words that are values. -/
def words : List (List Char × Json) :=
  [("null".toList, .null), ("true".toList, .bool true), ("false".toList, .bool false),
   ("NaN".toList, .float .nan), ("Infinity".toList, .float (.infinite false)),
   ("-Infinity".toList, .float (.infinite true))]

/-- A word or a number in front of a text. -/
def readScalar (s : List Char) : Except Stop (Json × After s) :=
  match s with
  | [] => .error (.malformed .expectingValue [])
  | c :: rest =>
    match words.find? fun w => w.1.isPrefixOf (c :: rest) with
    | some (word, v) =>
      .ok (v, drop c rest word.length)
    | none =>
      match Numeral.scan (c :: rest) with
      | none => .error (.malformed .expectingValue (c :: rest))
      | some n =>
        match n.value with
        | .error e => .error e
        | .ok v => .ok (v, drop c rest n.length)

mutual

/-- A value in front of a text, which may hold others down to the given depth. -/
def readValue (depth : Nat) (s : List Char) : Except Stop (Json × After s) :=
  match s with
  | '"' :: rest =>
    match readBody s [] rest with
    | .error e => .error e
    | .ok (text, r) => .ok (.string (String.ofList text), past '"' r)
  | '[' :: rest =>
    match depth with
    | 0 => .error (.tooDeep .array)
    | depth + 1 =>
      match skipGap rest with
      | ⟨r, h⟩ =>
        match expect ']' r with
        | some a => .ok (.array [], past '[' (chainAfter h a))
        | none =>
          match readItems depth [] r with
          | .error e => .error e
          | .ok (items, a) => .ok (.array items, past '[' (chainAfter h a))
  | '{' :: rest =>
    match depth with
    | 0 => .error (.tooDeep .object)
    | depth + 1 =>
      match skipGap rest with
      | ⟨r, h⟩ =>
        match expect '}' r with
        | some a => .ok (.object [], past '{' (chainAfter h a))
        | none =>
          match readMembers depth [] r with
          | .error e => .error e
          | .ok (members, a) =>
            .ok (.object (Association.ofPairs members), past '{' (chainAfter h a))
  | s => readScalar s
termination_by (s.length, 0)
decreasing_by
  all_goals simp only [List.length_cons] at *
  all_goals (apply Prod.Lex.left; omega)

/-- The items of an array that is not empty, behind its bracket; those read so far come last
first. -/
def readItems (depth : Nat) (acc : List Json) (s : List Char) :
    Except Stop (List Json × After s) :=
  match readValue depth s with
  | .error e => .error e
  | .ok (v, ⟨r₁, h₁⟩) =>
    match skipGap r₁ with
    | ⟨r, h⟩ =>
      match expect ']' r with
      | some a => .ok ((v :: acc).reverse, chain h₁ (chainAfter h a))
      | none =>
        match expect ',' r with
        | none => .error (.malformed .expectingComma r)
        | some ⟨r₂, h₂⟩ =>
          match skipGap r₂ with
          | ⟨r₃, h₃⟩ =>
            match readItems depth (v :: acc) r₃ with
            | .error e => .error e
            | .ok (items, a) =>
              .ok (items, chain h₁ (chainAfter h (chain h₂ (chainAfter h₃ a))))
termination_by (s.length, 1)
decreasing_by
  · apply Prod.Lex.right; omega
  · apply Prod.Lex.left; omega

/-- The members of an object that is not empty, behind its brace; those read so far come last
first. -/
def readMembers (depth : Nat) (acc : List (String × Json)) (s : List Char) :
    Except Stop (List (String × Json) × After s) :=
  match s with
  | '"' :: rest =>
    match readBody s [] rest with
    | .error e => .error e
    | .ok (name, ⟨r₁, h₁⟩) =>
      match skipGap r₁ with
      | ⟨r, h⟩ =>
        match expect ':' r with
        | none => .error (.malformed .expectingColon r)
        | some ⟨r₂, h₂⟩ =>
          match skipGap r₂ with
          | ⟨r₃, h₃⟩ =>
            match readValue depth r₃ with
            | .error e => .error e
            | .ok (v, ⟨r₄, h₄⟩) =>
              match readMore depth ((String.ofList name, v) :: acc) r₄ with
              | .error e => .error e
              | .ok (members, a) =>
                .ok (members, past '"' (chain h₁ (chainAfter h (chain h₂ (chainAfter h₃
                  (chain h₄ a))))))
  | s => .error (.malformed .expectingName s)
termination_by (s.length, 2)
decreasing_by
  all_goals simp only [List.length_cons] at *
  all_goals (apply Prod.Lex.left; omega)

/-- What follows a member: the end of the object, or a comma and the next member. -/
def readMore (depth : Nat) (acc : List (String × Json)) (s : List Char) :
    Except Stop (List (String × Json) × After s) :=
  match skipGap s with
  | ⟨r, h⟩ =>
    match expect '}' r with
    | some a => .ok (acc.reverse, chainAfter h a)
    | none =>
      match expect ',' r with
      | none => .error (.malformed .expectingComma r)
      | some ⟨r₂, h₂⟩ =>
        match skipGap r₂ with
        | ⟨r₃, h₃⟩ =>
          match readMembers depth acc r₃ with
          | .error e => .error e
          | .ok (members, a) => .ok (members, chainAfter h (chain h₂ (chainAfter h₃ a)))
termination_by (s.length, 1)
decreasing_by
  apply Prod.Lex.left; omega

end

/-! ## Texts -/

/-- Why a text was not read. -/
inductive ReadFault where
  /-- It is not JSON. -/
  | malformed (problem : Problem) (position : Text.Position)
  /-- It holds an integer with too many digits. -/
  | tooManyDigits (count : Nat)
  /-- It holds values too deep inside others. -/
  | tooDeep (container : Container)
  deriving DecidableEq, Repr

/-- The fault of a text at which reading stopped. -/
def Stop.fault (text : List Char) : Stop → ReadFault
  | .malformed problem unread =>
    .malformed problem (Text.Position.after (text.take (text.length - unread.length)))
  | .tooManyDigits count => .tooManyDigits count
  | .tooDeep container => .tooDeep container

/-- The value of a text, with gaps around it and nothing else. -/
def readAll (depth : Nat) (text : List Char) : Except Stop Json :=
  match readValue depth (skipGap text) with
  | .error e => .error e
  | .ok (v, ⟨rest, _⟩) =>
    let unread := (skipGap rest).val
    if unread.isEmpty then .ok v else .error (.malformed .extraData unread)

/-- The value that decoded text spells, if there is room for values down to the given depth. -/
def readWithin (depth : Nat) (text : List Char) : Except ReadFault Json :=
  match readAll depth text with
  | .error stop => .error (stop.fault text)
  | .ok v => .ok v

/-- The value that a text spells, which must not begin with a byte order mark. -/
def readUnmarked (depth : Nat) (text : List Char) : Except ReadFault Json :=
  if text.head? = some '\uFEFF' then
    .error (Stop.fault text (.malformed .byteOrderMark text))
  else readWithin depth text

/-- The wording of a text that is not JSON. -/
def malformedMessage (problem : Problem) (position : Text.Position) : String :=
  s!"{problem.message}: {position.text}"

end LedgerGateway.Json
