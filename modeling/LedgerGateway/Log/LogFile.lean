import LedgerGateway.Files.Basic

/-!
# Log files that make way

A log file grows to a limit. What would reach it goes into a fresh file, for which the old one makes
way: it gets a number behind its name, and so do the ones that made way before, each the next one.
Only so many are kept, and the oldest is lost. A fault on the way leaves the files as far as they
came.

* `rollover` — the files once a log file has made way.
* `Keeps`, `keeps_makeWay` — nothing is doubled on the way.
-/

namespace LedgerGateway.Log.LogFile

open Files (Place Trouble Entry)

/-- The number of bytes that a log file has to stay below. -/
def sizeLimit : Nat := 10 * 1024 * 1024

/-- How many files that made way are kept. -/
def kept : Nat := 5

/-- Why a file did not make way. -/
inductive Fault where
  /-- What stands in the way cannot be removed. -/
  | removing (trouble : Trouble) (place : Place)
  /-- The file cannot be renamed. -/
  | renaming (trouble : Trouble) (source target : Place)
  deriving DecidableEq, Repr

/-- The text of a place. -/
def placeText (place : Place) : String := "/" ++ "/".intercalate place

/-- The wording of a fault. -/
def Fault.message : Fault → String
  | .removing trouble place => trouble.message (placeText place)
  | .renaming trouble source target =>
    s!"{trouble.message (placeText source)} -> {Text.quoted (placeText target)}"

/-- Whether what stands at a place, if anything does, is a file that holds something. -/
def isRegular (files : Files) (place : Place) : Bool :=
  match files.entry? place with
  | some .folder => false
  | some .sink => false
  | _ => true

/-- The place of a log file that made way, by its number. -/
def numbered (place : Place) (number : Nat) : Place :=
  place.dropLast ++ [(place.getLast?.getD "") ++ "." ++ toString number]

/-- Whether the name or the text of a place is too long. -/
def isTooLong (place : Place) : Bool :=
  Files.pathLimit < (placeText place).utf8ByteSize ||
    place.any fun part => Files.partLimit < part.utf8ByteSize

/-- Whether something is found at a place. -/
def isThere (files : Files) (place : Place) : Bool :=
  !isTooLong place && (files.entry? place).isSome

/-- Removes what is found at a place. -/
def clear (files : Files) (place : Place) : Except Fault Files :=
  if !isThere files place then .ok files
  else if files.isFolderAt place then .error (.removing .isFolder place)
  else .ok (files.filter fun e => e.1 ≠ place)

/-- Renames what stands at a place, and all that is below. -/
def rename (files : Files) (source target : Place) : Files :=
  files.map fun e =>
    (if source.isPrefixOf e.1 then target ++ e.1.drop source.length else e.1, e.2)

/-- Moves what is found at a place to another one, over what is there. -/
def move (files : Files) (source target : Place) : Files × Option Fault :=
  if !isThere files source then (files, none)
  else
    match clear files target with
    | .error fault => (files, some fault)
    | .ok files =>
      if isTooLong target then (files, some (.renaming .tooLong source target))
      else (rename files source target, none)

/-- Moves in turn, as far as there is no fault. -/
def moveAll (files : Files) : List (Place × Place) → Files × Option Fault
  | [] => (files, none)
  | (source, target) :: rest =>
    match move files source target with
    | (files, some fault) => (files, some fault)
    | (files, none) => moveAll files rest

/-- The ways of the files when a log file makes way, from the oldest on. -/
def moves (place : Place) : List (Place × Place) :=
  ((List.range (kept - 1)).reverse.map fun n => (numbered place (n + 1), numbered place (n + 2)))
    ++ [(place, numbered place 1)]

/-- A log file makes way, and a fresh one is opened. -/
def rollover (files : Files) (place : Place) : Files × Option Fault :=
  match moveAll files (moves place) with
  | (files, some fault) => (files, some fault)
  | (files, none) => (files.append place [], none)

/-- How many bytes the file at a place has. -/
def sizeAt (files : Files) (place : Place) : Nat :=
  match files.entry? place with
  | some (.file content) => content.length
  | _ => 0

/-- Whether a log file cannot take so many characters more. -/
def isFull (leavesEmpty : Bool) (size count : Nat) : Bool :=
  sizeLimit ≤ size + count && (leavesEmpty || size ≠ 0)

/-- The files that a number of characters is written into: the log file makes way for another if it
cannot take them. -/
def makeWay (leavesEmpty : Bool) (files : Files) (place : Place) (count : Nat) :
    Files × Option Fault :=
  if isFull leavesEmpty (sizeAt files place) count then rollover files place else (files, none)

/-! ## What is left of the files -/

/-- What stands at the places of files, in their order. -/
def contents (files : Files) : List Entry := files.map Prod.snd

/-- Nothing is doubled: the files hold what they held before, or a part of it, and at most one fresh
file beside. -/
def Keeps (files files' : Files) : Prop :=
  (contents files').Sublist (contents files ++ [.file []])

theorem keeps_of_sublist {files files' : Files}
    (part : (contents files').Sublist (contents files)) : Keeps files files' :=
  part.trans (List.sublist_append_left _ _)

theorem Keeps.refl (files : Files) : Keeps files files := keeps_of_sublist (List.Sublist.refl _)

theorem contents_clear {files files' : Files} {place : Place}
    (cleared : clear files place = .ok files') : (contents files').Sublist (contents files) := by
  unfold clear at cleared
  split at cleared
  · cases cleared
    exact .refl _
  · split at cleared
    · cases cleared
    · cases cleared
      exact List.filter_sublist.map Prod.snd

theorem contents_rename (files : Files) (source target : Place) :
    contents (rename files source target) = contents files := by
  simp [contents, rename]

theorem contents_move (files : Files) (source target : Place) :
    (contents (move files source target).1).Sublist (contents files) := by
  unfold move
  split
  · exact .refl _
  · cases cleared : clear files target with
    | error fault => exact .refl _
    | ok files' =>
      have part := contents_clear cleared
      simp only
      split
      · exact part
      · rwa [contents_rename]

theorem contents_moveAll (files : Files) (ways : List (Place × Place)) :
    (contents (moveAll files ways).1).Sublist (contents files) := by
  induction ways generalizing files with
  | nil => exact .refl _
  | cons way rest ih =>
    have first := contents_move files way.1 way.2
    rw [moveAll]
    cases moved : move files way.1 way.2 with
    | mk files' fault =>
      rw [moved] at first
      cases fault with
      | some fault => exact first
      | none => exact (ih files').trans first

/-- A fresh file is opened at a place where there is none. -/
theorem keeps_append_nil (files : Files) (place : Place) : Keeps files (files.append place []) := by
  unfold Files.append
  cases entry : files.entry? place with
  | none =>
    have missing : files.lookup place = none := by
      unfold Files.entry? at entry
      split at entry
      · cases entry
      · assumption
    simp [Keeps, Association.put_of_lookup_eq_none missing, contents]
  | some old =>
    cases old with
    | folder => exact .refl _
    | sink => exact .refl _
    | file content =>
      have found : files.lookup place = some (.file content) := by
        unfold Files.entry? at entry
        split at entry
        · next found => rw [found, entry]
        · split at entry
          · cases entry
          · cases entry
      simp only [List.append_nil, Association.put_of_lookup found]
      exact .refl files

theorem keeps_rollover (files : Files) (place : Place) : Keeps files (rollover files place).1 := by
  have moved := contents_moveAll files (moves place)
  rw [rollover]
  cases ended : moveAll files (moves place) with
  | mk files' fault =>
    rw [ended] at moved
    cases fault with
    | some fault => exact keeps_of_sublist moved
    | none => exact (keeps_append_nil files' place).trans (moved.append_right _)

/-- **Nothing is doubled when a log file makes way**, be it with a fault or without. -/
theorem keeps_makeWay (leavesEmpty : Bool) (files : Files) (place : Place) (count : Nat) :
    Keeps files (makeWay leavesEmpty files place count).1 := by
  unfold makeWay
  split
  · exact keeps_rollover files place
  · exact .refl files

/-- What stands at a place that is no file takes a text and stays as it is. -/
theorem append_of_not_isRegular {files : Files} {place : Place}
    (other : ¬ isRegular files place) (content : Hex.Bytes) :
    files.append place content = files := by
  unfold isRegular at other
  unfold Files.append
  split at other
  · next entry => simp only [entry]
  · next entry => simp only [entry]
  · exact absurd rfl other

end LedgerGateway.Log.LogFile
