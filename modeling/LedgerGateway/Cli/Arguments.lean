import LedgerGateway.Text.Quoted
import LedgerGateway.Text.Resemblance

/-!
# Arguments of a command line

An argument that begins with a dash and goes on is an option. A long option has a name behind two
dashes and may bring its value behind an equals sign. Letters behind a single dash are short options
in a row; the first of them that takes a value takes the letters behind it, or else the next
argument. Two dashes alone end the options. Every other argument stands by itself; a reader that is
told so stops at the first of them. A long name that is no option may be one misspelt, so the
complaint about it names the options that it resembles.

* `readArguments_plain` — arguments that begin with no dash are left as they are.
-/

namespace LedgerGateway.Cli

/-- The options of all commands. -/
inductive Switch where
  | help
  | version
  | config
  | bind
  | connect
  | verbose
  | url
  deriving DecidableEq, Repr

namespace Switch

/-- The long form of an option. -/
def long : Switch → String
  | .help => "--help"
  | .version => "--version"
  | .config => "--config"
  | .bind => "--bind"
  | .connect => "--connect"
  | .verbose => "--verbose"
  | .url => "--url"

/-- The letter of an option. -/
def letter? : Switch → Option Char
  | .bind => some 'b'
  | .connect => some 'C'
  | .verbose => some 'v'
  | .url => some 'u'
  | _ => none

/-- Whether an option has a value. -/
def takesValue : Switch → Bool
  | .config => true
  | .bind => true
  | .connect => true
  | .url => true
  | _ => false

end Switch

/-- What a complaint about an unknown name says of the known ones that it resembles. -/
def didYouMean : List String → String
  | [] => ""
  | [one] => s!" Did you mean {Text.quoted one}?"
  | several =>
    let listed := ", ".intercalate (several.map Text.quoted)
    s!" (Did you mean one of: {listed}?)"

/-- Why arguments could not be read. -/
inductive ArgumentFault where
  /-- There is no such option, but some that it resembles. -/
  | unknown (option : String) (alike : List String)
  | needsValue (option : String)
  | takesNoValue (option : String)
  deriving DecidableEq, Repr

/-- The wording of a fault. -/
def ArgumentFault.message : ArgumentFault → String
  | .unknown option alike => s!"No such option {Text.quoted option}." ++ didYouMean alike
  | .needsValue option => s!"Option {Text.quoted option} requires an argument."
  | .takesNoValue option => s!"Option {Text.quoted option} does not take a value."

/-- An option as it was given. -/
structure Given where
  switch : Switch
  value : Option String
  deriving DecidableEq, Repr

/-- Arguments that were read: the options in order, and the arguments that stand by themselves. -/
structure Arguments where
  options : List Given
  others : List String
  deriving DecidableEq, Repr

namespace Arguments

/-- The value that an option was last given. -/
def value? (a : Arguments) (s : Switch) : Option String :=
  (a.options.filter fun g => g.switch = s).getLast?.bind Given.value

/-- How often an option was given. -/
def count (a : Arguments) (s : Switch) : Nat := a.options.countP fun g => g.switch = s

/-- The first of some options that was given. -/
def first? (a : Arguments) (among : List Switch) : Option Switch :=
  (a.options.map Given.switch).find? fun s => among.contains s

end Arguments

/-- Options that were read from one argument, and whether the next one was taken for a value. -/
abbrev Taken := List Given × Bool

/-- Takes the value of an option: the one that is attached to it, or else the next argument. -/
def takeValue (s : Switch) (shown : String) (attached next : Option String) :
    Except ArgumentFault Taken :=
  match attached, next with
  | some v, _ => .ok ([⟨s, some v⟩], false)
  | none, some v => .ok ([⟨s, some v⟩], true)
  | none, none => .error (.needsValue shown)

/-- Reads the letters behind a dash. -/
def readLetters (switches : List Switch) (next : Option String) :
    List Char → Except ArgumentFault Taken
  | [] => .ok ([], false)
  | c :: rest =>
    let shown := String.ofList ['-', c]
    match switches.find? fun s => s.letter? = some c with
    | none => .error (.unknown shown [])
    | some s =>
      if s.takesValue then
        takeValue s shown (if rest.isEmpty then none else some (String.ofList rest)) next
      else
        match readLetters switches next rest with
        | .error fault => .error fault
        | .ok (more, taken) => .ok (⟨s, none⟩ :: more, taken)

/-- Reads an argument that is an option. -/
def readOption (switches : List Switch) (argument : List Char) (next : Option String) :
    Except ArgumentFault Taken :=
  let name := argument.takeWhile (· ≠ '=')
  let shown := String.ofList name
  let attached := if argument.contains '=' then
    some (String.ofList (argument.drop (name.length + 1))) else none
  match switches.find? fun s => s.long = shown with
  | some s =>
    if s.takesValue then takeValue s shown attached next
    else if attached.isSome then .error (.takesNoValue shown)
    else .ok ([⟨s, none⟩], false)
  | none =>
    match argument with
    | '-' :: '-' :: _ =>
      .error (.unknown shown (Text.lookalikes (switches.map Switch.long) shown))
    | _ => readLetters switches next (argument.drop 1)

/-- Whether an argument is an option. -/
def isOption : List Char → Bool
  | '-' :: _ :: _ => true
  | _ => false

/-- Reads arguments. Without `mixed`, the first one that stands by itself ends the options. -/
def readArguments (switches : List Switch) (mixed : Bool) (arguments : List String) :
    Except ArgumentFault Arguments :=
  match arguments with
  | [] => .ok ⟨[], []⟩
  | argument :: rest =>
    if argument = "--" then .ok ⟨[], rest⟩
    else if isOption argument.toList then
      match readOption switches argument.toList rest.head? with
      | .error fault => .error fault
      | .ok (given, taken) =>
        match readArguments switches mixed (if taken then rest.drop 1 else rest) with
        | .error fault => .error fault
        | .ok a => .ok ⟨given ++ a.options, a.others⟩
    else if mixed then
      match readArguments switches mixed rest with
      | .error fault => .error fault
      | .ok a => .ok ⟨a.options, argument :: a.others⟩
    else .ok ⟨[], argument :: rest⟩
termination_by arguments.length
decreasing_by
  · split <;> simp only [List.length_cons, List.length_drop] <;> omega
  · simp

/-- Arguments that begin with no dash are left as they are. -/
theorem readArguments_plain (switches : List Switch) (mixed : Bool) (arguments : List String)
    (h : ∀ a ∈ arguments, a.toList.head? ≠ some '-') :
    readArguments switches mixed arguments = .ok ⟨[], arguments⟩ := by
  induction arguments with
  | nil => simp [readArguments]
  | cons a rest ih =>
      have own := h a List.mem_cons_self
      have notEnd : a ≠ "--" := by
        intro same
        subst same
        exact own rfl
      have notOption : isOption a.toList = false := by
        unfold isOption
        split
        · next c tail shape => simp [shape] at own
        · rfl
      have others := ih fun b hb => h b (List.mem_cons_of_mem _ hb)
      rw [readArguments, if_neg notEnd, notOption]
      cases mixed with
      | false => simp
      | true => simp [others]

end LedgerGateway.Cli
