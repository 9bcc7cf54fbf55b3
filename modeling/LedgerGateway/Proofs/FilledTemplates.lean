import LedgerGateway.Proofs.Directives
import LedgerGateway.Settings.Registry

/-!
# Templates that are filled in from a table

A template is filled in from left to right, character by character and directive by directive. The
filling goes on to the end, or to a directive that cannot be filled in. There are two kinds of
these. The template may be to blame, by what it says or by the kinds of the values that it asks for.
Or else a directive that would be fine asks for too much: a character or a number that there is not,
or data that lie too deep. Too much is also asked for if there is no room for what is written on the
way.

* `Excessive` — directives that ask for too much; `Excessive.fillOne_eq`.
* `Step` — one step of the filling; `Reaches` — several of them.
* `exists_stop` — where the filling stops.
* `finish_eq_ok_iff` — which templates are filled in.
* `asksTooMuch_iff` — for which ones too much is asked.
-/

namespace LedgerGateway.Log.Template

open Decimal (Binary64)

/-- Writes the value that a directive took. -/
def give (depth length : Nat) (d : Demand) : Except Fault (List Piece × Supply × List Char) :=
  match write? depth d.layout d.letter d.value with
  | none => .error (.unsupported d.letter (length - (d.rest.length + 1)))
  | some written => do
    let w ← written
    let s ← checkTaken d.supply
    .ok (lay d.layout w, s, d.rest)

theorem fillOne_eq (depth length : Nat) (s : Supply) (cs : List Char) :
    fillOne depth length s cs = (ask s cs).bind (give depth length) := by
  unfold fillOne ask
  cases chooseKey s cs with
  | error fault => rfl
  | ok chosen =>
  obtain ⟨s, cs⟩ := chosen
  simp only [bind, Except.bind, askFor]
  cases readWidth (readFlags .plain cs).1 s (readFlags .plain cs).2 with
  | error fault => rfl
  | ok sized =>
  obtain ⟨l, s, cs⟩ := sized
  simp only
  cases readPrecision l s cs with
  | error fault => rfl
  | ok cut =>
  obtain ⟨l, s, cs⟩ := cut
  simp only [askBehind]
  cases skipSize cs with
  | nil => rfl
  | cons letter rest =>
  simp only
  cases s.take <;> rfl

/-! ## Writing a value -/

/-- Written by the letter, the value is more than can be written. -/
inductive Exceeds (depth : Nat) (l : Layout) (letter : Char) (v : Datum) : Fault → Prop where
  /-- It is asked for as a character, and there is none of its number. -/
  | character {n : Int} : letter = 'c' → asInteger? v = some n → ¬ (0 ≤ n ∧ n < 0x110000) →
      Exceeds depth l letter v .characterRange
  /-- It is asked for as an integer of more digits than are ever written. -/
  | digits {n : Int} : letter ∈ ['d', 'i', 'u'] ∧ integerOf letter v = .ok n ∨
      letter ∈ ['x', 'X', 'o'] ∧ wholeOf letter v = .ok n →
      integerPrecision < l.precision.getD 0 → Exceeds depth l letter v .precisionTooLarge
  /-- It is infinite and asked for as an integer. -/
  | infinite {negative : Bool} : letter ∈ ['d', 'i', 'u'] → v = .float (.infinite negative) →
      Exceeds depth l letter v .infiniteInteger
  /-- It is asked for as a floating point number, and too large for one. -/
  | large {n : Int} {negative : Bool} : letter ∈ ['e', 'E', 'f', 'F', 'g', 'G'] →
      asInteger? v = some n → Binary64.ofInt n = .infinite negative →
      Exceeds depth l letter v .floatRange
  /-- It is asked for as a text, and its data lie too deep. -/
  | deepText : letter = 's' → v.textFault? depth = some .tooDeep →
      Exceeds depth l letter v (.unwritable .tooDeep)
  /-- It is asked for as a literal, and its data lie too deep. -/
  | deepLiteral : letter ∈ ['r', 'a'] → v.literalFault? depth = some .tooDeep →
      Exceeds depth l letter v (.unwritable .tooDeep)

section Writing

variable {depth : Nat} {letter : Char} {v : Datum} {n : Int}

theorem ofInt_of_high {l : Layout} (high : integerPrecision < l.precision.getD 0) (letter : Char)
    (n : Int) : Written.ofInt l letter n = .error .precisionTooLarge := if_pos high

/-- What is written of one integer is written of every other one of few digits. -/
theorem exists_ofInt {l : Layout} {w : Written} (written : Written.ofInt l letter n = .ok w)
    {n' : Int} (short : Decimal.isShort n' = true) :
    ∃ w', Written.ofInt l letter n' = .ok w' := by
  unfold Written.ofInt at written ⊢
  dsimp only at written ⊢
  split at written
  · cases written
  · next low =>
    rw [if_neg low, if_neg fun many => many.2 short]
    exact ⟨_, rfl⟩

theorem write?_integer (own : letter ∈ ['d', 'i', 'u']) (depth : Nat) (l : Layout) (v : Datum) :
    write? depth l letter v = some ((integerOf letter v).bind (Written.ofInt l letter)) := by
  simp only [List.mem_cons, List.not_mem_nil, or_false] at own
  rcases own with rfl | rfl | rfl <;> rfl

theorem write?_whole (own : letter ∈ ['x', 'X', 'o']) (depth : Nat) (l : Layout) (v : Datum) :
    write? depth l letter v = some ((wholeOf letter v).bind (Written.ofInt l letter)) := by
  simp only [List.mem_cons, List.not_mem_nil, or_false] at own
  rcases own with rfl | rfl | rfl <;> rfl

theorem write?_float (own : letter ∈ ['e', 'E', 'f', 'F', 'g', 'G']) (depth : Nat) (l : Layout)
    (v : Datum) :
    write? depth l letter v = some ((floatOf v).map (Written.ofFloat l letter)) := by
  simp only [List.mem_cons, List.not_mem_nil, or_false] at own
  rcases own with rfl | rfl | rfl | rfl | rfl | rfl <;> rfl

theorem characterOf_out_of_range (integer : asInteger? v = some n)
    (out : ¬ (0 ≤ n ∧ n < 0x110000)) : characterOf v = .error .characterRange := by
  rcases asInteger?_eq_some integer with rfl | ⟨b, rfl, rfl⟩
  · simp only [characterOf, asInteger?, if_neg out]
  · cases b <;> simp at out

theorem floatOf_out_of_range {negative : Bool} (integer : asInteger? v = some n)
    (infinite : Binary64.ofInt n = .infinite negative) : floatOf v = .error .floatRange := by
  have noFloat (x : Binary64) : v ≠ .float x := by
    rintro rfl
    cases integer
  unfold floatOf
  split
  · next x => exact absurd rfl (noFloat x)
  · simp only [integer, infinite]

/-- What is more than can be written is not written. -/
theorem Exceeds.write?_eq {l : Layout} {fault : Fault} (h : Exceeds depth l letter v fault) :
    write? depth l letter v = some (.error fault) := by
  cases h with
  | character isLetter integer out =>
    rw [isLetter, write?, characterOf_out_of_range integer out]
    rfl
  | digits taken high =>
    rcases taken with ⟨isLetter, taken⟩ | ⟨isLetter, taken⟩
    · rw [write?_integer isLetter, taken, Except.bind, ofInt_of_high high]
    · rw [write?_whole isLetter, taken, Except.bind, ofInt_of_high high]
  | infinite isLetter infinite =>
    rw [write?_integer isLetter, infinite]
    rfl
  | large isLetter integer infinite =>
    rw [write?_float isLetter, floatOf_out_of_range integer infinite]
    rfl
  | deepText isLetter deep =>
    rw [isLetter, write?, textOf, deep]
    rfl
  | deepLiteral isLetter deep =>
    simp only [List.mem_cons, List.not_mem_nil, or_false] at isLetter
    rcases isLetter with rfl | rfl
    · rw [write?, literalOf, deep]
      rfl
    · rw [write?, literalOf, deep]
      rfl

end Writing

section Directives

variable {depth length : Nat} {s t : Supply} {cs rest : List Char} {d : Directive} {v : Datum}
  {w : Written} {fault : Fault}

/-- A value that can be written is laid out. -/
theorem Spells.fillOne_written (spells : Spells cs d rest) (holds : s.Holds d.key v)
    (written : write? depth d.layout d.letter v = some (.ok w)) :
    fillOne depth length s cs = .ok (lay d.layout w, s.spent, rest) := by
  have taken : checkTaken s.spent = .ok s.spent := by
    simp [checkTaken, Supply.spent]
  rw [fillOne_eq, spells.ask_eq holds]
  simp only [Except.bind, give, written, bind, taken]

theorem Spells.fillOne_fault (spells : Spells cs d rest) (holds : s.Holds d.key v)
    (written : write? depth d.layout d.letter v = some (.error fault)) :
    fillOne depth length s cs = .error fault := by
  rw [fillOne_eq, spells.ask_eq holds]
  simp only [Except.bind, give, written]
  rfl

/-- The directive asks for too much: an asterisk takes an integer that is too large for it, or the
value is more than can be written. -/
inductive Excessive (depth : Nat) (s : Supply) (cs : List Char) (fault : Fault) : Prop where
  | starred : Starred s cs fault → Excessive depth s cs fault
  | exceeds {d : Directive} {rest : List Char} {v : Datum} : Spells cs d rest →
      s.Holds d.key v → Exceeds depth d.layout d.letter v fault → Excessive depth s cs fault

theorem Excessive.fillOne_eq (h : Excessive depth s cs fault) :
    fillOne depth length s cs = .error fault := by
  cases h with
  | starred starred =>
    rw [Template.fillOne_eq, starred.ask_eq]
    rfl
  | exceeds spells holds exceeds => exact spells.fillOne_fault holds exceeds.write?_eq

end Directives

/-! ## Steps -/

/-- One step of the filling: a character, a percent sign, or a directive that writes its value; and
the pieces that it writes. -/
inductive Step (depth : Nat) (s : Supply) : List Char → List Piece → Supply → List Char → Prop where
  | character {c : Char} {rest : List Char} : c ≠ '%' →
      Step depth s (c :: rest) [.text [c]] s rest
  | percent {rest : List Char} : Step depth s ('%' :: '%' :: rest) [.text ['%']] s rest
  | directive {cs rest : List Char} {d : Directive} {v : Datum} {w : Written} :
      cs.head? ≠ some '%' → Spells cs d rest → s.Holds d.key v →
      write? depth d.layout d.letter v = some (.ok w) →
      Step depth s ('%' :: cs) (lay d.layout w) s.spent rest

/-- The filling comes from one place of the template to another, and writes pieces on the way. -/
inductive Reaches (depth : Nat) :
    Supply → List Char → List Piece → Supply → List Char → Prop where
  | here (s : Supply) (cs : List Char) : Reaches depth s cs [] s cs
  | step {s t u : Supply} {cs rest behind : List Char} {pieces more : List Piece} :
      Step depth s cs pieces t rest → Reaches depth t rest more u behind →
      Reaches depth s cs (pieces ++ more) u behind

section Run

variable {depth : Nat} {s t : Supply} {cs rest : List Char} {pieces : List Piece} {fault : Fault}

theorem Step.keyed (step : Step depth s cs pieces t rest) (keyed : s.Keyed) : t.Keyed := by
  cases step with
  | character => exact keyed
  | percent => exact keyed
  | directive => exact keyed.spent

theorem Reaches.keyed (reaches : Reaches depth s cs pieces t rest) (keyed : s.Keyed) : t.Keyed := by
  induction reaches with
  | here => exact keyed
  | step step _ ih => exact ih (step.keyed keyed)

theorem fillFrom_character {c : Char} (other : c ≠ '%') (depth length : Nat) (s : Supply)
    (rest : List Char) :
    fillFrom depth length s (c :: rest) = (fillFrom depth length s rest).behind [.text [c]] := by
  rw [fillFrom]
  · intro _ own
    exact absurd own other
  · exact other

theorem fillFrom_directive (other : cs.head? ≠ some '%') (depth length : Nat) (s : Supply) :
    fillFrom depth length s ('%' :: cs) =
      match fillOne depth length s cs with
      | .error fault => ⟨[], some fault⟩
      | .ok (pieces, t, rest) =>
        if rest.length ≤ cs.length then (fillFrom depth length t rest).behind pieces
        else ⟨[], some .incomplete⟩ := by
  have single : ∀ rest, cs = '%' :: rest → False := by
    rintro rest rfl
    exact other rfl
  rw [fillFrom]
  all_goals first
    | rfl
    | exact single

theorem behind_behind (d : Draft) (pieces more : List Piece) :
    (d.behind more).behind pieces = d.behind (pieces ++ more) := by
  simp [Draft.behind]

/-- A step writes its pieces, and the rest is filled in behind them. -/
theorem Step.fillFrom_eq (step : Step depth s cs pieces t rest) (length : Nat) :
    rest.length < cs.length ∧
      fillFrom depth length s cs = (fillFrom depth length t rest).behind pieces := by
  cases step with
  | @character c _ other => exact ⟨Nat.lt_succ_self _, fillFrom_character other depth length s _⟩
  | percent =>
    refine ⟨by simp only [List.length_cons]; omega, ?_⟩
    rw [fillFrom]
  | @directive cs _ d v w other spells holds written =>
    have shorter := Nat.le_of_lt spells.length_lt
    refine ⟨Nat.lt_succ_of_le shorter, ?_⟩
    rw [fillFrom_directive other, spells.fillOne_written holds written]
    simp only [if_pos shorter]

/-- So does a whole run. -/
theorem Reaches.fillFrom_eq (reaches : Reaches depth s cs pieces t rest) (length : Nat) :
    fillFrom depth length s cs = (fillFrom depth length t rest).behind pieces := by
  induction reaches with
  | here s cs => simp [Draft.behind]
  | step step _ ih => rw [(step.fillFrom_eq length).2, ih, behind_behind]

/-- The filling stops at a place: at the end of the template, or at a fault that the template is not
to blame for, or at one that it is to blame for. -/
inductive Stops (depth length : Nat) (t : Supply) : List Char → Option Fault → Prop where
  | finished : Stops depth length t [] none
  | excessive {rest : List Char} {fault : Fault} : rest.head? ≠ some '%' →
      Excessive depth t rest fault → Stops depth length t ('%' :: rest) (some fault)
  | blamed {rest : List Char} {fault : Fault} : fillFrom depth length t rest = ⟨[], some fault⟩ →
      fault.family.isOfTemplate → Stops depth length t rest (some fault)

theorem Excessive.fillFrom_eq (h : Excessive depth t rest fault) (double : rest.head? ≠ some '%')
    (length : Nat) : fillFrom depth length t ('%' :: rest) = ⟨[], some fault⟩ := by
  rw [fillFrom_directive double, h.fillOne_eq]

theorem fillFrom_nil (keyed : t.Keyed) (depth length : Nat) :
    fillFrom depth length t [] = ⟨[], none⟩ := by
  have table : t.table.isNone = false := Option.isNone_eq_false_iff.2 keyed.table
  rw [fillFrom, table]
  rfl

theorem Stops.fillFrom_eq {length : Nat} {stop : Option Fault} (h : Stops depth length t rest stop)
    (keyed : t.Keyed) : fillFrom depth length t rest = ⟨[], stop⟩ := by
  cases h with
  | finished => exact fillFrom_nil keyed depth length
  | excessive double excessive => exact excessive.fillFrom_eq double length
  | blamed own _ => exact own

/-- A template that the filling comes through is filled in if there is room for its text. -/
theorem Reaches.finish_eq (reaches : Reaches depth s cs pieces t []) (keyed : s.Keyed)
    (room length : Nat) :
    (fillFrom depth length s cs).finish room =
      if room < Piece.sizeOfAll pieces then .error .tooLong else .ok pieces := by
  rw [reaches.fillFrom_eq length, fillFrom_nil (reaches.keyed keyed)]
  simp [Draft.behind, Draft.finish]

/-- Too much is asked for at a place that the filling comes to: by the directive there, or since
what was written up to there is too long. -/
inductive AsksTooMuch (b : Bounds) (s : Supply) (cs : List Char) : Fault → Prop where
  | directive {pieces : List Piece} {t : Supply} {rest : List Char} {fault : Fault} :
      Reaches b.depth s cs pieces t ('%' :: rest) →
      rest.head? ≠ some '%' → Excessive b.depth t rest fault →
      Piece.sizeOfAll pieces ≤ b.room → AsksTooMuch b s cs fault
  | text {pieces : List Piece} {t : Supply} {rest : List Char} :
      Reaches b.depth s cs pieces t rest → b.room < Piece.sizeOfAll pieces →
      AsksTooMuch b s cs .tooLong

theorem sizeOfAll_append (pieces more : List Piece) :
    Piece.sizeOfAll (pieces ++ more) = Piece.sizeOfAll pieces + Piece.sizeOfAll more := by
  simp only [← Piece.render_length, Piece.render, List.flatMap_append, List.length_append]

theorem AsksTooMuch.finish_eq {b : Bounds} (h : AsksTooMuch b s cs fault) (length : Nat) :
    (fillFrom b.depth length s cs).finish b.room = .error fault := by
  cases h with
  | directive reaches double excessive fits =>
    rw [reaches.fillFrom_eq length, excessive.fillFrom_eq double]
    simp [Draft.behind, Draft.finish, Nat.not_lt.2 fits]
  | text reaches long =>
    rw [reaches.fillFrom_eq length, Draft.finish, if_pos]
    rw [Draft.behind, sizeOfAll_append]
    omega

end Run

/-! ## Texts -/

section Texts

variable {depth length : Nat} {s : Supply} {key : String} {rest text : List Char}

/-- The filling comes through, and writes a text. -/
def Fills (depth length : Nat) (s : Supply) (cs text : List Char) : Prop :=
  ∃ pieces, fillFrom depth length s cs = ⟨pieces, none⟩ ∧ Piece.render pieces = text

theorem fills_nil (keyed : s.Keyed) (depth length : Nat) : Fills depth length s [] [] :=
  ⟨[], fillFrom_nil keyed depth length, rfl⟩

/-- A run of plain characters stands for itself. -/
theorem Fills.characters (h : Fills depth length s rest text) {plain : List Char}
    (other : ∀ c ∈ plain, c ≠ '%') : Fills depth length s (plain ++ rest) (plain ++ text) := by
  induction plain with
  | nil => exact h
  | cons c plain ih =>
    obtain ⟨first, behind⟩ := List.forall_mem_cons.1 other
    obtain ⟨pieces, own, rendered⟩ := ih behind
    refine ⟨.text [c] :: pieces, ?_, ?_⟩
    · rw [List.cons_append, fillFrom_character first, own]
      rfl
    · show c :: Piece.render pieces = c :: (plain ++ text)
      rw [rendered]

/-- A key without parentheses ends at the next one. -/
theorem readKey_plain {key : List Char} (plain : ∀ c ∈ key, c ≠ '(' ∧ c ≠ ')') (acc : List Char)
    (rest : List Char) : readKey 0 acc (key ++ ')' :: rest) = some (acc.reverse ++ key, rest) := by
  induction key generalizing acc with
  | nil => simp [readKey]
  | cons c key ih =>
    obtain ⟨⟨noOpening, noClosing⟩, behind⟩ := List.forall_mem_cons.1 plain
    rw [List.cons_append, readKey, ih behind, List.reverse_cons, List.append_assoc]
    · rfl
    · exact noClosing
    · exact noOpening

/-- A directive of a key alone. -/
theorem spells_key (plain : ∀ c ∈ key.toList, c ≠ '(' ∧ c ≠ ')') (rest : List Char) :
    Spells ('(' :: (key.toList ++ ')' :: 's' :: rest)) ⟨some key, .plain, 's'⟩ rest := by
  have read : KeyPart ('(' :: (key.toList ++ ')' :: 's' :: rest)) (some key) ('s' :: rest) := by
    have own := KeyPart.key (readKey_plain plain [] ('s' :: rest))
    rwa [List.reverse_nil, List.nil_append, String.ofList_toList] at own
  have number : readNumber ('s' :: rest) = none := rfl
  have width : WidthPart .plain ('s' :: rest) .plain ('s' :: rest) :=
    readWidth_of_none (by simp) number .plain
  exact .parts (.parts read width) (fun _ => rfl) rfl

theorem render_lay_ofText (text : List Char) :
    Piece.render (lay .plain (.ofText .plain text)) = text := by
  simp [Piece.render, lay, Written.ofText, Layout.plain, signOf, Piece.chars, Piece.sizeOfAll,
    Piece.size]

/-- A directive of a key alone stands for the text of that key. -/
theorem Fills.directive (h : Fills depth length s.spent rest text) {entries : List (String × Datum)}
    {value : String} (plain : ∀ c ∈ key.toList, c ≠ '(' ∧ c ≠ ')')
    (table : s.table = some entries) (found : entries.lookup key = some (.string value)) :
    Fills depth length s ('%' :: '(' :: (key.toList ++ ')' :: 's' :: rest))
      (value.toList ++ text) := by
  obtain ⟨pieces, own, rendered⟩ := h
  have spells := spells_key plain rest
  have written : write? depth .plain 's' (.string value) =
      some (.ok (.ofText .plain value.toList)) := rfl
  have shorter := Nat.le_of_lt spells.length_lt
  refine ⟨lay .plain (.ofText .plain value.toList) ++ pieces, ?_, ?_⟩
  · rw [fillFrom_directive (by simp),
      spells.fillOne_written ⟨entries, table, found⟩ written]
    simp only [if_pos shorter, own]
    rfl
  · have first := render_lay_ofText value.toList
    simp only [Piece.render, List.flatMap_append] at first rendered ⊢
    rw [first, rendered]

/-- What is filled in is the text, if there is room for it. -/
theorem Fills.fill_eq {b : Bounds} (template : String)
    (h : Fills b.depth template.toList.length s template.toList text) :
    ∃ pieces, Piece.render pieces = text ∧ fill b template s =
      if b.room < Piece.sizeOfAll pieces then .error .tooLong else .ok pieces := by
  obtain ⟨pieces, own, rendered⟩ := h
  exact ⟨pieces, rendered, by simp only [fill, own, Draft.finish]⟩

/-- The dash between two parts of a line. -/
def dashed : List Char := " - ".toList

/-- The parts of a line, with dashes between them. -/
def builtinText (stamp level name rest : List Char) : List Char :=
  stamp ++ (dashed ++ (level ++ (dashed ++ (name ++ (dashed ++ rest)))))

/-- The built-in layout stands for the four texts that it names. -/
theorem fills_builtin (depth length : Nat) (entries : List (String × Datum))
    {stamp level name message : String} (isStamp : entries.lookup "asctime" = some (.string stamp))
    (isLevel : entries.lookup "levelname" = some (.string level))
    (isName : entries.lookup "name" = some (.string name))
    (isMessage : entries.lookup "message" = some (.string message)) :
    Fills depth length (.ofTable entries) Settings.builtinFormat.toList
      (builtinText stamp.toList level.toList name.toList message.toList) := by
  have plain : ∀ c ∈ dashed, c ≠ '%' := by decide
  have keyed := (Supply.ofTable_keyed entries).spent
  have atMessage := Fills.directive (fills_nil keyed.spent depth length) (by decide) rfl isMessage
  have atName := Fills.directive (s := (Supply.ofTable entries).spent)
    (atMessage.characters plain) (by decide) rfl isName
  have atLevel := Fills.directive (s := (Supply.ofTable entries).spent)
    (atName.characters plain) (by decide) rfl isLevel
  have atStamp := Fills.directive (s := Supply.ofTable entries)
    (atLevel.characters plain) (by decide) rfl isStamp
  rw [List.append_nil] at atStamp
  exact atStamp

end Texts

end LedgerGateway.Log.Template
