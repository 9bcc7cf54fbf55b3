import LedgerGateway.Domain.Label
import LedgerGateway.Domain.Punycode
import LedgerGateway.Text.Parts

/-!
# Domain names

A domain name is a row of labels with points between them. A name with labels beyond ASCII is
written in ASCII, where each such label begins with `xn--`; and a name that is written so is read
again. All labels are checked on the way.
-/

namespace LedgerGateway.Domain

/-- What a label in ASCII that stands for another begins with. -/
def mark : List Char := "xn--".toList

/-- The most characters that a label in ASCII has. -/
def labelLimit : Nat := 63

/-- The most characters that a name has; with a point at its end it may have one more. -/
def nameLimit : Nat := 253

/-- Whether the character stands between labels: the point, and the forms of it in East Asia. -/
def isPoint (c : Char) : Bool := c = '.' || c = '\u3002' || c = '\uff0e' || c = '\uff61'

/-- The labels of a name, and whether a point stands at its end. A name has at least one label. -/
def labelsOf (s : List Char) : Except LabelFault (List (List Char) × Bool) :=
  let labels := Text.partsBetween isPoint s
  if nameLimit + 1 < s.length ∨ s.isEmpty then .error .malformed
  else if labels.getLast? = some [] then .ok (labels.dropLast, true)
  else .ok (labels, false)

/-- The code points of a text. -/
def points (s : List Char) : List Nat := s.map Char.toNat

/-- Checks a label in ASCII, which may stand for another. There is one way only to write that
one. -/
def readLabel (s : List Char) : Except LabelFault Unit :=
  let s := s.map Char.toLower
  if mark.isPrefixOf s then
    let tail := s.drop mark.length
    if tail.isEmpty ∨ tail.getLast? = some '-' then .error .malformed
    else
      match Punycode.decode? tail with
      | none => .error .malformed
      | some label => if Punycode.encode label = tail then Label.check label else .error .malformed
  else Label.check (points s)

/-- A label in ASCII. -/
def writeLabel (s : List Char) : Except LabelFault (List Char) :=
  let written :=
    if s.all fun c => c.toNat < 0x80 then (readLabel s).map fun _ => s
    else (Label.check (points s)).map fun _ => mark ++ Punycode.encode (points s)
  match written with
  | .error fault => .error fault
  | .ok label => if labelLimit < label.length then .error .malformed else .ok label

/-- A name in ASCII. -/
def write (s : List Char) : Except LabelFault (List Char) :=
  match labelsOf s with
  | .error fault => .error fault
  | .ok (labels, ended) =>
    match labels.mapM writeLabel with
    | .error fault => .error fault
    | .ok labels =>
      let name := List.intercalate ['.'] labels ++ (if ended then ['.'] else [])
      if nameLimit + (if ended then 1 else 0) < name.length then .error .malformed else .ok name

/-- Checks a name that is written in ASCII. -/
def check (s : List Char) : Except LabelFault Unit :=
  match labelsOf s with
  | .error fault => .error fault
  | .ok (labels, _) => labels.forM readLabel

end LedgerGateway.Domain
