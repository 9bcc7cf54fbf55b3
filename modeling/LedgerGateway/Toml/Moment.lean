import LedgerGateway.Datum.Moment

/-!
# Dates and times in TOML

A date is ten characters, a time eight and a fraction, and a date with a time may end in the offset
of a time zone. The readers here answer with a value and the number of its characters. They look at
the form of a moment first; a date of the right form that no calendar has is a fault of its own.
-/

namespace LedgerGateway.Toml

/-- The number of two or more ASCII digits. -/
def digitsValue? (ds : List Char) : Option Nat :=
  if ds.all Char.isDigit then some (ds.foldl (fun n c => n * 10 + (c.toNat - 48)) 0) else none

/-- The number of some digits, if it lies in a range. -/
def between (low high : Nat) (ds : List Char) : Option Nat :=
  (digitsValue? ds).bind fun n => if low ≤ n ∧ n ≤ high then some n else none

/-- The date at the start of a text. -/
def readDate : List Char → Option Date
  | a :: b :: c :: d :: '-' :: e :: f :: '-' :: g :: h :: _ =>
    match digitsValue? [a, b, c, d], between 1 12 [e, f], between 1 31 [g, h] with
    | some year, some month, some day => some ⟨year, month, day⟩
    | _, _, _ => none
  | _ => none

/-- The millionths of a second that a point and digits spell, and the number of characters. Digits
beyond the sixth do not count. -/
def readFraction : List Char → Nat × Nat
  | '.' :: rest =>
    let ds := rest.takeWhile Char.isDigit
    if ds.isEmpty then (0, 0)
    else
      let six := (ds ++ List.replicate 6 '0').take 6
      ((digitsValue? six).getD 0, ds.length + 1)
  | _ => (0, 0)

/-- The time at the start of a text, and the number of its characters. -/
def readTime : List Char → Option (TimeOfDay × Nat)
  | a :: b :: ':' :: c :: d :: ':' :: e :: f :: rest =>
    match between 0 23 [a, b], between 0 59 [c, d], between 0 59 [e, f] with
    | some hour, some minute, some second =>
      let (micro, count) := readFraction rest
      some (⟨hour, minute, second, micro⟩, 8 + count)
    | _, _, _ => none
  | _ => none

/-- The minutes of the offset at the start of a text, and the number of its characters. -/
def readOffset : List Char → Option Int × Nat
  | 'Z' :: _ => (some 0, 1)
  | 'z' :: _ => (some 0, 1)
  | sign :: a :: b :: ':' :: c :: d :: _ =>
    match between 0 23 [a, b], between 0 59 [c, d] with
    | some hours, some minutes =>
      let n : Int := hours * 60 + minutes
      if sign = '+' then (some n, 6) else if sign = '-' then (some (-n), 6) else (none, 0)
    | _, _ => (none, 0)
  | _ => (none, 0)

/-- Whether the year has a 29th of February. -/
def isLeap (year : Nat) : Bool := (year % 4 = 0 && year % 100 ≠ 0) || year % 400 = 0

/-- How many days the month has. -/
def daysIn (year month : Nat) : Nat :=
  if month = 2 then (if isLeap year then 29 else 28)
  else if month = 4 ∨ month = 6 ∨ month = 9 ∨ month = 11 then 30
  else 31

/-- Whether a calendar has the date. -/
def isCalendarDate (d : Date) : Bool := 1 ≤ d.year && d.day ≤ daysIn d.year d.month

/-- The moment at the start of a text and the number of its characters, if the text has the form of
one; nothing in place of the moment if no calendar has its date. -/
def readMoment (s : List Char) : Option (Option Moment × Nat) :=
  match readDate s with
  | some date =>
    let onlyDate := (Moment.date date, 10)
    let (moment, count) := match s.drop 10 with
      | sep :: rest =>
        if sep = 'T' ∨ sep = 't' ∨ sep = ' ' then
          match readTime rest with
          | some (time, count) =>
            let (offset, more) := readOffset (rest.drop count)
            (Moment.dateTime date time offset, 11 + count + more)
          | none => onlyDate
        else onlyDate
      | [] => onlyDate
    some (if isCalendarDate date then some moment else none, count)
  | none => (readTime s).map fun (time, count) => (some (.time time), count)

end LedgerGateway.Toml
