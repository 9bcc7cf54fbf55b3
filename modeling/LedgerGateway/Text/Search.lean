/-!
# Parts of a text

A part occurs in a text if the text goes on with it somewhere.
-/

namespace LedgerGateway.Text

/-- Whether one text is a part of another. -/
def occurs (part : List Char) : List Char → Bool
  | [] => part.isEmpty
  | c :: rest => part.isPrefixOf (c :: rest) || occurs part rest

end LedgerGateway.Text
