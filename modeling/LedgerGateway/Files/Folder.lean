import LedgerGateway.Files.Basic

/-!
# Making folders and opening files

A folder is made together with the folders on the way to it that are missing. A file is opened to be
written on at its end, and made if it is not there. The place of the file is the one that its path
names if nothing is looked up on the way, so the folder that was made and the folder of the file may
be two.
-/

namespace LedgerGateway.Files

/-- Makes a folder in one that is there. -/
def makeFolder (files : Files) (p : Path) : Except Trouble Files :=
  match textTrouble? p.text with
  | some trouble => .error trouble
  | none =>
    match p.parts.getLast? with
    | none => .error .taken
    | some last =>
      match files.walk (beginning p) p.parts.dropLast with
      | .error trouble => .error trouble
      | .ok place =>
        match step files place last with
        | .error .missing => .ok (Association.put files (place ++ [last]) .folder)
        | .error trouble => .error trouble
        | .ok _ => .error .taken

/-- Makes a folder unless it is there. -/
def ensureFolder (files : Files) (p : Path) : Except Fault Files :=
  match makeFolder files p with
  | .ok files => .ok files
  | .error trouble => if files.isFolder p then .ok files else .error ⟨trouble, p.text⟩

/-- Makes a folder unless it is there, and those on the way to it, given the number of its parts. -/
def ensureAbove (files : Files) (p : Path) : Nat → Except Fault Files
  | 0 => ensureFolder files p
  | count + 1 =>
    match makeFolder files p with
    | .error .missing =>
      match ensureAbove files p.parent count with
      | .error fault => .error fault
      | .ok files => ensureFolder files p
    | _ => ensureFolder files p

/-- Makes a folder unless it is there, and those on the way to it. -/
def ensureFolders (files : Files) (p : Path) : Except Fault Files :=
  ensureAbove files p p.parts.length

/-- The text of the place of a file, as faults show it. The folder that the program runs in goes
without saying. -/
def shownPlace (p : Path) (place : Place) : String :=
  let anchor := if p.isAbsolute then p.anchor else "/"
  if !p.isAbsolute && home.isPrefixOf place then p.text else anchor ++ "/".intercalate place

/-- Opens a file to be written on at its end: the place of the file, and the files with it. -/
def openFile (files : Files) (p : Path) : Except Fault (Place × Files) :=
  let place := straight (beginning p) p.parts
  let shown := shownPlace p place
  match files.find ("/" ++ "/".intercalate place) [] place with
  | .error .missing => .ok (place, files.append place [])
  | .error trouble => .error ⟨trouble, shown⟩
  | .ok .folder => .error ⟨.isFolder, shown⟩
  | .ok _ => .ok (place, files)

/-- Opens a file, and makes the folders on the way to it before. -/
def openWithFolders (files : Files) (p : Path) : Except Fault (Place × Files) :=
  match ensureFolders files p.parent with
  | .error fault => .error fault
  | .ok files => openFile files p

end LedgerGateway.Files
