/-!
# Paths

A path names a way through the folders: from the root if it begins with a slash, or else from the
folder that the program runs in. Its plain form has single slashes, no parts that are a point and no
slash at the end; two points lead up again, and stay, since what they lead to depends on the way.
-/

namespace LedgerGateway.Files

/-- A path in its plain form. -/
structure Path where
  /-- What an absolute path begins with: one slash, or two if there were exactly two. -/
  anchor : String
  parts : List String
  deriving DecidableEq, Repr

namespace Path

/-- What a text begins with if it is an absolute path. -/
def anchorOf (text : String) : String :=
  match (text.toList.takeWhile (· = '/')).length with
  | 0 => ""
  | 2 => "//"
  | _ => "/"

/-- The steps that a text takes: its parts between slashes. A slash at the end is a step on the
spot, which only a folder allows. -/
def stepsOf (text : String) : List String :=
  let steps := (text.splitOn "/").filter fun part => part ≠ ""
  if text.toList.getLast? = some '/' then steps ++ ["."] else steps

/-- The plain form of a path. -/
def ofText (text : String) : Path where
  anchor := anchorOf text
  parts := (stepsOf text).filter fun part => part ≠ "."

/-- The text of a path. -/
def text (p : Path) : String :=
  let text := p.anchor ++ "/".intercalate p.parts
  if text = "" then "." else text

/-- Whether a path begins at the root. -/
def isAbsolute (p : Path) : Bool := p.anchor ≠ ""

/-- The path without its last part. -/
def parent (p : Path) : Path := { p with parts := p.parts.dropLast }

end Path

/-- One step from a place: up again, though not above the root, or down. -/
def stepFrom (place : List String) (part : String) : List String :=
  if part = ".." then place.dropLast else place ++ [part]

/-- The place that parts lead to from another place if nothing is looked up on the way. -/
def straight (place : List String) (parts : List String) : List String := parts.foldl stepFrom place

end LedgerGateway.Files
