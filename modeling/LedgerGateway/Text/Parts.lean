/-!
# Parts between marks

A text is cut at every character of a class, which leaves one part more than there are such
characters.
-/

namespace LedgerGateway.Text

/-- The parts of a text between marks. -/
def partsBetween (isMark : Char → Bool) : List Char → List (List Char)
  | [] => [[]]
  | c :: rest =>
    if isMark c then [] :: partsBetween isMark rest
    else
      match partsBetween isMark rest with
      | [] => [[c]]
      | part :: parts => (c :: part) :: parts

end LedgerGateway.Text
