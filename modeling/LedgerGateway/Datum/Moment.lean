/-!
# Dates and times

A moment is a date, a time of day, or both together, then possibly with the offset of a time zone.
It has two texts: the plain one, which reads like the standard notation, and the literal, which
names its parts.
-/

namespace LedgerGateway

/-- A day of a calendar year. -/
structure Date where
  year : Nat
  month : Nat
  day : Nat
  deriving DecidableEq, Repr

/-- A time of day. -/
structure TimeOfDay where
  hour : Nat
  minute : Nat
  second : Nat
  /-- Millionths of a second. -/
  micro : Nat
  deriving DecidableEq, Repr

/-- A date, a time, or both. -/
inductive Moment where
  | date (d : Date)
  | time (t : TimeOfDay)
  /-- Both, with the minutes by which local time is ahead. -/
  | dateTime (d : Date) (t : TimeOfDay) (offset : Option Int)
  deriving DecidableEq, Repr

namespace Moment

/-- A number with zeros in front up to a width. -/
def padded (width n : Nat) : String :=
  let ds := Nat.toDigits 10 n
  String.ofList (List.replicate (width - ds.length) '0' ++ ds)

/-- The date as year, month and day. -/
def dateText (d : Date) : String := s!"{padded 4 d.year}-{padded 2 d.month}-{padded 2 d.day}"

/-- The time to the second, and to the millionth if there is a fraction. -/
def timeText (t : TimeOfDay) : String :=
  let whole := s!"{padded 2 t.hour}:{padded 2 t.minute}:{padded 2 t.second}"
  if t.micro = 0 then whole else s!"{whole}.{padded 6 t.micro}"

/-- The offset of a time zone as hours and minutes. -/
def offsetText : Option Int → String
  | none => ""
  | some minutes =>
    let n := minutes.natAbs
    let sign := if minutes < 0 then "-" else "+"
    s!"{sign}{padded 2 (n / 60)}:{padded 2 (n % 60)}"

/-- The plain text. -/
def text : Moment → String
  | date d => dateText d
  | time t => timeText t
  | dateTime d t offset => s!"{dateText d} {timeText t}{offsetText offset}"

/-- The parts of a date. -/
def dateParts (d : Date) : String := s!"{d.year}, {d.month}, {d.day}"

/-- The parts of a time, without seconds and millionths that are zero at its end. -/
def timeParts (t : TimeOfDay) : String :=
  if t.micro ≠ 0 then s!"{t.hour}, {t.minute}, {t.second}, {t.micro}"
  else if t.second ≠ 0 then s!"{t.hour}, {t.minute}, {t.second}"
  else s!"{t.hour}, {t.minute}"

/-- The time zone of an offset. One behind is named by the day before and the seconds from there. -/
def zoneParts : Option Int → String
  | none => ""
  | some minutes =>
    if minutes = 0 then ", tzinfo=datetime.timezone.utc"
    else
      let span :=
        if minutes < 0 then s!"days=-1, seconds={86400 + minutes * 60}"
        else s!"seconds={minutes * 60}"
      s!", tzinfo=datetime.timezone(datetime.timedelta({span}))"

/-- How deep the parts of the literal lie inside each other: an offset is a part of its own, and
so is the span that tells it. -/
def literalDepth : Moment → Nat
  | dateTime _ _ (some minutes) => if minutes = 0 then 1 else 2
  | _ => 0

/-- The literal. -/
def literal : Moment → String
  | date d => s!"datetime.date({dateParts d})"
  | time t => s!"datetime.time({timeParts t})"
  | dateTime d t offset => s!"datetime.datetime({dateParts d}, {timeParts t}{zoneParts offset})"

end Moment

end LedgerGateway
