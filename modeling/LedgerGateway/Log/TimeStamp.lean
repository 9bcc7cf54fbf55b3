import LedgerGateway.Decimal.Binary64
import LedgerGateway.Log.DateFormat
import LedgerGateway.Log.FaultFamily

/-!
# Time stamps

A time is a floating point number of seconds since the beginning of 1970. Its time stamp shows the
second it lies in, in universal time. The clock counts seconds in 64 bits and the calendar years
from 1900 on in 32 bits, so not every time has one.
-/

namespace LedgerGateway.Log.TimeStamp

open Decimal (Binary64)

/-- Why a time has no time stamp. -/
inductive Fault where
  | notANumber
  /-- The clock cannot count so many seconds. -/
  | beyondClock
  /-- The calendar cannot count so many years. -/
  | beyondCalendar
  /-- The year itself is too large, though not the years from 1900 on. -/
  | yearTooLarge
  /-- The year does not have four digits at most. -/
  | yearOutOfRange (year : Int)
  /-- The layout holds a character that no layout may hold. -/
  | nulInLayout
  deriving DecidableEq, Repr

/-- The family of a fault. -/
def Fault.family : Fault → FaultFamily
  | .notANumber => .value
  | .beyondClock => .overflow
  | .beyondCalendar => .system
  | .yearTooLarge => .overflow
  | .yearOutOfRange _ => .value
  | .nulInLayout => .value

/-- The wording of a fault. -/
def Fault.message : Fault → String
  | .notANumber => "Invalid value NaN (not a number)"
  | .beyondClock => "timestamp out of range for platform time_t"
  | .beyondCalendar => "[Errno 75] Value too large for defined data type"
  | .yearTooLarge => "signed integer is greater than maximum"
  | .yearOutOfRange year => s!"year {year} is out of range"
  | .nulInLayout => "embedded null character"

/-- The second that a finite time lies in. -/
def secondOf (negative : Bool) (mantissa : Nat) (exponent : Int) : Int :=
  let r := Binary64.magnitude mantissa exponent
  if negative then -((r.num + r.den - 1) / r.den : Nat) else (r.floor : Nat)

/-- The second that a time lies in, if the clock can count it. -/
def second : Binary64 → Except Fault Int
  | .nan => .error .notANumber
  | .infinite _ => .error .beyondClock
  | .finite negative mantissa exponent =>
    let seconds := secondOf negative mantissa exponent
    if seconds < Int64.minValue.toInt ∨ Int64.maxValue.toInt < seconds then .error .beyondClock
    else .ok seconds

/-- The second that a time lies in, if the calendar can count its year. -/
def datedSecond (time : Binary64) : Except Fault Int :=
  match second time with
  | .error fault => .error fault
  | .ok seconds =>
    let years := (Clock.ofSeconds seconds).year - 1900
    if years < Int32.minValue.toInt ∨ Int32.maxValue.toInt < years then .error .beyondCalendar
    else .ok seconds

/-- The second that a time lies in, if its year can be written. -/
def writtenSecond (time : Binary64) : Except Fault Int :=
  match datedSecond time with
  | .error fault => .error fault
  | .ok seconds =>
    if Int32.maxValue.toInt < (Clock.ofSeconds seconds).year then .error .yearTooLarge
    else .ok seconds

/-- Checks that a time lies in a year from 1 to 9999. -/
def checkYear (time : Binary64) : Except Fault Unit :=
  match datedSecond time with
  | .error fault => .error fault
  | .ok seconds =>
    let year := (Clock.ofSeconds seconds).year
    if year < 1 ∨ 9999 < year then .error (.yearOutOfRange year) else .ok ()

/-- The plain time stamp, with a comma and the thousandths of a second. -/
def plain (time : Binary64) (millis : Int) : Except Fault String :=
  (writtenSecond time).map fun seconds =>
    DateFormat.fill "%Y-%m-%d %H:%M:%S" seconds ++ ","
      ++ String.ofList (Piece.render (DateFormat.number .none '0' 3 millis))

/-- The time stamp in a layout. -/
def ofLayout (layout : String) (time : Binary64) : Except Fault String :=
  match writtenSecond time with
  | .error fault => .error fault
  | .ok seconds =>
    if layout.contains '\x00' then .error .nulInLayout else .ok (DateFormat.fill layout seconds)

end LedgerGateway.Log.TimeStamp
