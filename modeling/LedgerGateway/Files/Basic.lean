import LedgerGateway.Association
import LedgerGateway.Files.Fault
import LedgerGateway.Files.Path
import LedgerGateway.Hex.Data

/-!
# Files and folders

The files and folders that matter here: those below the folder that the program runs in, those that
are named from the root, and the folders that every system has. A path is walked step by step. Each
step is taken from a folder, and each one has to lead to something.
-/

namespace LedgerGateway

open Hex (Bytes)

namespace Files

/-- The parts of an absolute path, from the root. -/
abbrev Place := List String

/-- What stands at a place. -/
inductive Entry where
  | file (content : Bytes)
  | folder
  /-- A file that takes everything and holds nothing. -/
  | sink
  deriving DecidableEq, Repr

end Files

/-- The files and folders of a system. -/
abbrev Files := List (Files.Place × Files.Entry)

namespace Files

/-- The place of the folder that the program runs in. -/
def home : Place := ["tmp", "home"]

/-- The folders that every system has. -/
def systemFolders : List String :=
  ["bin", "boot", "dev", "etc", "home", "lib", "media", "mnt", "opt", "proc", "root", "run", "sbin",
   "srv", "sys", "tmp", "usr", "var"]

/-- A system without files. -/
def empty : Files :=
  (home, .folder) :: (["dev", "null"], .sink) :: systemFolders.map fun name => ([name], .folder)

/-- The place that a path begins at. -/
def beginning (p : Path) : Place := if p.isAbsolute then [] else home

/-- What stands at a place. A place above one that is known is a folder. -/
def entry? (files : Files) (place : Place) : Option Entry :=
  match files.lookup place with
  | some entry => some entry
  | none => if files.any fun e => place.isPrefixOf e.1 then some .folder else none

/-- Whether a folder stands at a place. -/
def isFolderAt (files : Files) (place : Place) : Bool := files.entry? place = some .folder

/-- Puts a file with a content, or a longer content into the file. What is given to a sink is
lost. -/
def append (files : Files) (place : Place) (content : Bytes) : Files :=
  match files.entry? place with
  | some (.file old) => Association.put files place (.file (old ++ content))
  | some _ => files
  | none => Association.put files place (.file content)

/-- The system with files of the given names and contents. -/
def ofList (files : List (String × Bytes)) : Files :=
  files.foldl (fun all f =>
    let path := Path.ofText f.1
    Association.put all (straight (beginning path) path.parts) (.file f.2)) empty

/-! ## Walking -/

/-- The most bytes that a part of a path may have. -/
def partLimit : Nat := 255

/-- The most bytes that a path may have. -/
def pathLimit : Nat := 4095

/-- One step from a place at which something stands. -/
def step (files : Files) (place : Place) (part : String) : Except Trouble Place :=
  if !files.isFolderAt place then .error .notFolder
  else if part = "." then .ok place
  else if part = ".." then .ok place.dropLast
  else if partLimit < part.utf8ByteSize then .error .tooLong
  else if (files.entry? (place ++ [part])).isSome then .ok (place ++ [part])
  else .error .missing

/-- The place that steps lead to from a place at which something stands. -/
def walk (files : Files) (place : Place) : List String → Except Trouble Place
  | [] => .ok place
  | part :: rest =>
    match step files place part with
    | .error trouble => .error trouble
    | .ok place => walk files place rest

/-- The trouble with the text of a path by itself. -/
def textTrouble? (text : String) : Option Trouble :=
  if text.contains '\x00' then some .nul
  else if pathLimit < text.utf8ByteSize then some .tooLong
  else none

/-- What steps lead to from a place, with a text for the whole path. -/
def find (files : Files) (text : String) (place : Place) (steps : List String) :
    Except Trouble Entry :=
  match textTrouble? text with
  | some trouble => .error trouble
  | none =>
    match files.walk place steps with
    | .error trouble => .error trouble
    | .ok place =>
      match files.entry? place with
      | some entry => .ok entry
      | none => .error .missing

/-- What a path leads to, taken as it is written. -/
def follow (files : Files) (text : String) : Except Trouble Entry :=
  if text = "" then .error .missing
  else files.find text (beginning (Path.ofText text)) (Path.stepsOf text)

/-- What a path in its plain form leads to. -/
def followPath (files : Files) (p : Path) : Except Trouble Entry :=
  files.find p.text (beginning p) p.parts

/-- The content of an entry that is a file. -/
def Entry.read : Entry → Except Trouble Bytes
  | .file content => .ok content
  | .folder => .error .isFolder
  | .sink => .ok []

/-- Whether a path in its plain form leads to a folder. -/
def isFolder (files : Files) (p : Path) : Bool :=
  match files.followPath p with
  | .ok .folder => true
  | _ => false

end Files

end LedgerGateway
