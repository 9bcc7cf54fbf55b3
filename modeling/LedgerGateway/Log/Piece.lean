/-!
# Pieces of a text

A text that is laid out is a list of pieces: characters, and runs of one character that fill a
width. Its size is known before it is written, so a text that would be too long never is.

* `render_length` — the text of pieces is as long as they are together.
-/

namespace LedgerGateway.Log

/-- A part of a text that is laid out. -/
inductive Piece where
  | text (cs : List Char)
  | fill (c : Char) (count : Nat)
  deriving DecidableEq, Repr

namespace Piece

/-- The characters of a piece. -/
def chars : Piece → List Char
  | .text cs => cs
  | .fill c count => List.replicate count c

/-- How many characters a piece has. -/
def size : Piece → Nat
  | .text cs => cs.length
  | .fill _ count => count

theorem chars_length (p : Piece) : p.chars.length = p.size := by
  cases p <;> simp [chars, size]

/-- How many characters pieces have together. -/
def sizeOfAll : List Piece → Nat
  | [] => 0
  | p :: rest => p.size + sizeOfAll rest

/-- The text of pieces. -/
def render (pieces : List Piece) : List Char := pieces.flatMap chars

/-- The text of pieces is as long as they are together. -/
theorem render_length (pieces : List Piece) : (render pieces).length = sizeOfAll pieces := by
  induction pieces with
  | nil => rfl
  | cons p rest ih =>
      simp only [render, List.flatMap_cons, List.length_append, sizeOfAll] at ih ⊢
      rw [ih, chars_length]

end Piece

end LedgerGateway.Log
