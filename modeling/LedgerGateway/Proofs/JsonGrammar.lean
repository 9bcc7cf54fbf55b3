import LedgerGateway.Json.Reader
import Mathlib.Logic.Relation

/-!
# The grammar of JSON

What it means for a text to spell a value, said without the reader. The grammar has two parameters:
the words that are values, and how many digits an integer may have; a third number bounds how deep
values may lie inside others. The strict grammar, RFC 8259, has three words and no bounds.

* `Spelt` — a text spells a value, the items of an array or the members of an object.
* `WholeText` and `StrictText` — whole texts, with gaps around the value.
* `Descends` — the points of a text where another value may begin, and how much room is left there.
* `Overruns` — such a point is reached where an integer has too many digits, or where an array or an
  object begins and no room is left.
-/

namespace LedgerGateway.Json

/-! ## Gaps and marks -/

/-- Nothing but blanks, tabs and ends of lines. -/
def Gap (g : List Char) : Prop := ∀ c ∈ g, isGap c = true

theorem gap_nil : Gap [] := fun _ mem => absurd mem (by simp)

/-- A mark with gaps around it. -/
def Marked (mark : Char) (s : List Char) : Prop :=
  ∃ g g', Gap g ∧ Gap g' ∧ s = g ++ mark :: g'

/-- A mark with a gap in front. -/
def Closing (mark : Char) (s : List Char) : Prop := ∃ g, Gap g ∧ s = g ++ [mark]

/-! ## Strings -/

/-- The escape of a second half of a pair comes next. -/
def LowNext (s : List Char) : Prop :=
  ∃ a b c d rest low, s = '\\' :: 'u' :: a :: b :: c :: d :: rest ∧
    Hex.value? [a, b, c, d] = some low ∧ isLowHalf low = true

/-- The characters of a string, spelt, and its closing quote. Two numbered escapes that are the
halves of a pair spell one character. -/
inductive Quoted : List Char → List Char → Prop where
  | done : Quoted [] ['"']
  | plain {c : Char} {t s} : 0x20 ≤ c.toNat → c ≠ '"' → c ≠ '\\' → Quoted t s →
      Quoted (c :: t) (c :: s)
  | short {e c : Char} {t s} : shortEscape? e = some c → Quoted t s →
      Quoted (c :: t) ('\\' :: e :: s)
  | alone {a b c d : Char} {u : Nat} {t s} : Hex.value? [a, b, c, d] = some u →
      (isHighHalf u = true → ¬ LowNext s) → Quoted t s →
      Quoted (unitChar u :: t) ('\\' :: 'u' :: a :: b :: c :: d :: s)
  | pair {a b c d a' b' c' d' : Char} {high low : Nat} {t s} :
      Hex.value? [a, b, c, d] = some high → isHighHalf high = true →
      Hex.value? [a', b', c', d'] = some low → isLowHalf low = true → Quoted t s →
      Quoted (Char.ofNat (joinHalves high low) :: t)
        ('\\' :: 'u' :: a :: b :: c :: d :: '\\' :: 'u' :: a' :: b' :: c' :: d' :: s)

/-- A name between its quotes and the colon behind it. -/
inductive Label : String → List Char → Prop where
  | mk {t q m} : Quoted t q → Marked ':' m → Label (String.ofList t) ('"' :: (q ++ m))

/-! ## Numbers -/

namespace Numeral

/-- The fraction with its point. -/
def fractionChars (n : Numeral) : List Char :=
  if n.fraction.isEmpty then [] else '.' :: n.fraction

/-- The exponent with its letter. -/
def exponentChars (letter : Char) : Option (List Char × List Char) → List Char
  | none => []
  | some (sign, ds) => letter :: (sign ++ ds)

/-- The characters of a numeral, given the letter of its exponent. -/
def chars (n : Numeral) (letter : Char) : List Char :=
  (if n.negative then ['-'] else [])
    ++ (n.first :: (n.more ++ (n.fractionChars ++ exponentChars letter n.exponent)))

/-- Nothing but digits. -/
def Digits (ds : List Char) : Prop := ∀ c ∈ ds, c.isDigit = true

/-- A numeral that may be written: digits where digits belong, and nothing behind a leading zero. -/
structure Regular (n : Numeral) : Prop where
  first : n.first.isDigit = true
  more : Digits n.more
  zero : n.first = '0' → n.more = []
  fraction : Digits n.fraction
  exponent : ∀ sign ds, n.exponent = some (sign, ds) →
    (sign = [] ∨ sign = ['+'] ∨ sign = ['-']) ∧ ds ≠ [] ∧ Digits ds

/-- A text spells a numeral. -/
def Spells (n : Numeral) (s : List Char) : Prop :=
  n.Regular ∧ ∃ letter, (letter = 'e' ∨ letter = 'E') ∧ s = n.chars letter

/-- A numeral is the longest one in front of a text. -/
def Longest (n : Numeral) (text : List Char) : Prop :=
  ∃ s, n.Spells s ∧ s <+: text ∧ ∀ n' s', Spells n' s' → s' <+: text → s'.length ≤ s.length

end Numeral

/-! ## Values -/

/-- What a part of a text spells: a value, the items of an array up to its bracket, or the members
of an object up to its brace. -/
inductive Node where
  | value (v : Json)
  | items (vs : List Json)
  | members (ms : List (String × Json))

/-- The words of the strict grammar. -/
def strictWords : List (List Char × Json) :=
  [("null".toList, .null), ("true".toList, .bool true), ("false".toList, .bool false)]

theorem strictWords_known : ∀ w ∈ strictWords, w ∈ words := by
  simp [strictWords, words]

/-- A text spells a value or a part of one, with integers of at most so many digits and values down
to a depth. -/
inductive Spelt (words : List (List Char × Json)) (digits : Nat) :
    Nat → Node → List Char → Prop where
  | word {depth w v} : (w, v) ∈ words → Spelt words digits depth (.value v) w
  | number {depth n s} : Numeral.Spells n s → (n.isInteger = true → n.count ≤ digits) →
      Spelt words digits depth (.value n.number) s
  | string {depth t q} : Quoted t q →
      Spelt words digits depth (.value (.string (String.ofList t))) ('"' :: q)
  | emptyArray {depth z} : Closing ']' z →
      Spelt words digits (depth + 1) (.value (.array [])) ('[' :: z)
  | array {depth g vs s} : Gap g → Spelt words digits depth (.items vs) s →
      Spelt words digits (depth + 1) (.value (.array vs)) ('[' :: (g ++ s))
  | emptyObject {depth z} : Closing '}' z →
      Spelt words digits (depth + 1) (.value (.object [])) ('{' :: z)
  | object {depth g ms s} : Gap g → Spelt words digits depth (.members ms) s →
      Spelt words digits (depth + 1) (.value (.object (Association.ofPairs ms))) ('{' :: (g ++ s))
  | lastItem {depth v s z} : Spelt words digits depth (.value v) s → Closing ']' z →
      Spelt words digits depth (.items [v]) (s ++ z)
  | item {depth v s m vs t} : Spelt words digits depth (.value v) s → Marked ',' m →
      Spelt words digits depth (.items vs) t →
      Spelt words digits depth (.items (v :: vs)) (s ++ (m ++ t))
  | lastMember {depth name l v s z} : Label name l → Spelt words digits depth (.value v) s →
      Closing '}' z → Spelt words digits depth (.members [(name, v)]) (l ++ (s ++ z))
  | member {depth name l v s m ms t} : Label name l → Spelt words digits depth (.value v) s →
      Marked ',' m → Spelt words digits depth (.members ms) t →
      Spelt words digits depth (.members ((name, v) :: ms)) (l ++ (s ++ (m ++ t)))

/-- A whole text: a value with gaps around it. -/
def WholeText (words : List (List Char × Json)) (digits depth : Nat) (v : Json)
    (text : List Char) : Prop :=
  ∃ g s g', Gap g ∧ Spelt words digits depth (.value v) s ∧ Gap g' ∧ text = g ++ (s ++ g')

/-- A text of the strict grammar, with integers of any length and values at any depth. -/
def StrictText (text : List Char) : Prop :=
  ∃ digits depth v, WholeText strictWords digits depth v text

/-! ## Limits -/

/-- Reading stopped because a limit was passed. -/
def Stop.IsLimit : Stop → Prop
  | .malformed _ _ => False
  | .tooManyDigits _ => True
  | .tooDeep _ => True

/-- What is to come at a point of a text. -/
inductive Expected where
  | value
  | items
  | members
  deriving DecidableEq, Repr

/-- A point of a text: what is to come, how deep values may lie from here on, and the text. -/
structure Point where
  expected : Expected
  depth : Nat
  text : List Char
  deriving DecidableEq, Repr

/-- From one point to the next: into an array or an object, to the value of an item or a member, or
past one of them. -/
inductive Descends : Point → Point → Prop where
  | array {depth g s} : Gap g → Descends ⟨.value, depth + 1, '[' :: (g ++ s)⟩ ⟨.items, depth, s⟩
  | object {depth g s} : Gap g →
      Descends ⟨.value, depth + 1, '{' :: (g ++ s)⟩ ⟨.members, depth, s⟩
  | item {depth s} : Descends ⟨.items, depth, s⟩ ⟨.value, depth, s⟩
  | pastItem {depth v p m s} : Spelt words Decimal.digitLimit depth (.value v) p → Marked ',' m →
      Descends ⟨.items, depth, p ++ (m ++ s)⟩ ⟨.items, depth, s⟩
  | member {depth name l s} : Label name l →
      Descends ⟨.members, depth, l ++ s⟩ ⟨.value, depth, s⟩
  | pastMember {depth name l v p m s} : Label name l →
      Spelt words Decimal.digitLimit depth (.value v) p → Marked ',' m →
      Descends ⟨.members, depth, l ++ (p ++ (m ++ s))⟩ ⟨.members, depth, s⟩

/-- At this point a limit is passed. -/
inductive Point.Excessive : Point → Prop where
  | array {s} : Excessive ⟨.value, 0, '[' :: s⟩
  | object {s} : Excessive ⟨.value, 0, '{' :: s⟩
  | number {depth n s} : Numeral.Longest n s → n.isInteger = true →
      Decimal.digitLimit < n.count → Excessive ⟨.value, depth, s⟩

/-- From this point on a limit is passed before anything else goes wrong. -/
def Point.Overruns (p : Point) : Prop := ∃ q, Relation.ReflTransGen Descends p q ∧ q.Excessive

/-- A text passes a limit before anything else goes wrong. -/
def Overruns (depth : Nat) (text : List Char) : Prop :=
  ∃ g s, Gap g ∧ text = g ++ s ∧ Point.Overruns ⟨.value, depth, s⟩

end LedgerGateway.Json
