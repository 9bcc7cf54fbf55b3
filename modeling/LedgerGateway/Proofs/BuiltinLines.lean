import LedgerGateway.Proofs.FilledTemplates
import LedgerGateway.Proofs.JournalSetup
import LedgerGateway.Proofs.TerminalLines

/-!
# Lines of the built-in layout

The built-in layout shows the time stamp of a record, its level, the name of its logger and its
message, with a dash between each two of them. None of the first three parts holds anything that
would be taken out for the sake of a terminal, so a line begins with them as they are, whatever the
message and the reports behind it hold. The time stamp is made of numbers, with a mark behind each
of them and the letters of its zone at the end.

* `Zoned` — what time stamps look like; `zoned_fill`.
* `text_builtin`, `line_builtin` — the text of a record and its line.
-/

namespace LedgerGateway.Log

open Decimal (Binary64)

/-- The formatter of the built-in layouts. -/
def builtinFormatter : Formatter :=
  ⟨Settings.builtinFormat, some (Settings.builtinDateFormat ++ " UTC")⟩

theorem make_builtin :
    Formatter.make Settings.builtinFormat (Settings.builtinDateFormat ++ " UTC") =
      .ok builtinFormatter := by
  decide +kernel

/-- The preferences leave both layouts as they are built in. -/
structure Preferences.IsBuiltin (p : Preferences) : Prop where
  format : p.format = .text Settings.builtinFormat (.string Settings.builtinFormat)
  dateFormat : p.dateFormat = .text Settings.builtinDateFormat (.string Settings.builtinDateFormat)

/-- A template is chosen over itself. -/
theorem choose_self {host : Host} {template : String} {chosen : Chosen}
    (chose : choose host template template = .ok chosen) : chosen.template = template := by
  unfold choose at chose
  split at chose
  · cases chose
    rfl
  · split at chose
    · cases chose
    · cases chose
      rfl
    · cases chose
      rfl

/-- All handlers of a journal that is set up with such preferences make their lines with this
formatter. -/
theorem formatter_of_setUp {p : Preferences} (builtin : p.IsBuiltin) {q : Request}
    {host : Host} {s : Journal} (open_ : s.configured = false)
    (fine : (Journal.setUp host p q s).fault = none) :
    ∀ h ∈ (Journal.setUp host p q s).journal.handlers, h.formatter = builtinFormatter := by
  intro h mem
  obtain ⟨⟨level, leveled⟩, -⟩ := (Journal.fault_setUp_eq_none_iff open_).1 fine
  obtain ⟨-, chosen, chose, made⟩ := Journal.made_of_setUp open_ leveled h mem
  have own : chosen.template = Settings.builtinFormat := by
    rw [Preferences.chooseTemplate, builtin.format] at chose
    exact choose_self chose
  have dates : p.dates = Settings.builtinDateFormat ++ " UTC" := by
    rw [Preferences.dates, builtin.dateFormat]
    rfl
  rw [made, Preferences.formatter, own, dates]
  rfl

/-! ## Time stamps -/

/-- The time lies in a year of four digits. -/
def InFourDigitYear (time : Binary64) : Prop :=
  ∃ seconds, TimeStamp.second time = .ok seconds ∧ 1000 ≤ (Clock.ofSeconds seconds).year ∧
    (Clock.ofSeconds seconds).year ≤ 9999

/-- The text is a number: at least one digit, and nothing else. -/
structure IsNumber (ds : List Char) : Prop where
  nonempty : ds ≠ []
  digits : ∀ d ∈ ds, d.isDigit

/-- The text is a time stamp: a date and a time of day in numbers, and the letters of the zone. -/
inductive Zoned : List Char → Prop where
  | stamp {year month day hour minute second : List Char} : IsNumber year → IsNumber month →
      IsNumber day → IsNumber hour → IsNumber minute → IsNumber second →
      Zoned (year ++ '-' :: (month ++ '-' :: (day ++ 'T' :: (hour ++ ':' :: (minute ++ ':' ::
        (second ++ " UTC".toList))))))

namespace DateFormat

/-- A number as it stands in a time stamp, with at least some digits. -/
def shownNumber (count n : Nat) : List Char := Piece.render (number .none '0' count n)

theorem shownNumber_eq (count n : Nat) : shownNumber count n =
    List.replicate (count - (Nat.toDigits 10 n).length) '0' ++ Nat.toDigits 10 n := by
  have positive : ¬ (n : Int) < 0 := by omega
  simp [shownNumber, number, Options.none, positive, padded, Piece.render, Piece.chars]

theorem isNumber_shownNumber (count n : Nat) : IsNumber (shownNumber count n) where
  nonempty := by
    rw [shownNumber_eq]
    intro empty
    have some_ : 0 < (Nat.toDigits 10 n).length := Nat.length_toDigits_pos
    rw [(List.append_eq_nil_iff.1 empty).2] at some_
    exact Nat.lt_irrefl 0 some_
  digits := by
    rw [shownNumber_eq, List.forall_mem_append]
    refine ⟨fun d mem => ?_, fun d mem => Nat.isDigit_of_mem_toDigits (by decide) (by decide) mem⟩
    rw [List.eq_of_mem_replicate mem]
    decide

theorem length_shownNumber_le {count n k : Nat} (fits : count ≤ k) (some_ : 0 < k)
    (small : n < 10 ^ k) : (shownNumber count n).length ≤ k := by
  have digits : (Nat.toDigits 10 n).length ≤ k := (Decimal.digitCount_le_iff some_).2 small
  rw [shownNumber_eq, List.length_append, List.length_replicate]
  omega

/-- A plain character of a layout stands for itself. -/
theorem render_fillFrom_character {d : Char} (other : d ≠ '%') (seconds : Int) (c : Clock)
    (rest : List Char) :
    Piece.render (fillFrom seconds c (d :: rest)) =
      d :: Piece.render (fillFrom seconds c rest) := by
  rw [fillFrom]
  · rfl
  · exact other

theorem render_fillFrom_plain {s : List Char} (plain : ∀ d ∈ s, d ≠ '%') (seconds : Int)
    (c : Clock) : Piece.render (fillFrom seconds c s) = s := by
  induction s with
  | nil =>
    rw [fillFrom]
    rfl
  | cons d rest ih =>
    obtain ⟨own, behind⟩ := List.forall_mem_cons.1 plain
    rw [render_fillFrom_character own, ih behind]

/-- A letter without options stands for a part of the moment. -/
theorem render_fillFrom_number {letter : Char} {rest : List Char} {count n : Nat} {seconds : Int}
    {c : Clock} (bare : readOptions (letter :: rest) = (.none, 0))
    (own : part? seconds c .none letter = some (number .none '0' count n)) :
    Piece.render (fillFrom seconds c ('%' :: letter :: rest)) =
      shownNumber count n ++ Piece.render (fillFrom seconds c rest) := by
  rw [fillFrom]
  simp only [bare, List.drop_zero, List.head?_cons, suits, Options.none, if_true] at own ⊢
  rw [own]
  simp [shownNumber, Piece.render, Options.none]

/-- The layout of time stamps, filled in for a moment after the beginning of the years. -/
theorem render_builtinDateFormat {c : Clock} {year : Nat} (own : c.year = year) (seconds : Int) :
    Piece.render (fillFrom seconds c (Settings.builtinDateFormat ++ " UTC").toList) =
      shownNumber 1 year ++ '-' :: (shownNumber 2 c.month ++ '-' :: (shownNumber 2 c.day ++
        'T' :: (shownNumber 2 c.hour ++ ':' :: (shownNumber 2 c.minute ++
          ':' :: (shownNumber 2 c.second ++ " UTC".toList))))) := by
  show Piece.render (fillFrom seconds c ('%' :: 'Y' :: '-' :: '%' :: 'm' :: '-' :: '%' :: 'd' ::
    'T' :: '%' :: 'H' :: ':' :: '%' :: 'M' :: ':' :: '%' :: 'S' :: " UTC".toList)) = _
  have isYear : part? seconds c .none 'Y' = some (number .none '0' 1 year) := by
    rw [← own]
    rfl
  rw [render_fillFrom_number rfl isYear, render_fillFrom_character (by decide)]
  rw [render_fillFrom_number rfl rfl, render_fillFrom_character (by decide)]
  rw [render_fillFrom_number rfl rfl, render_fillFrom_character (by decide)]
  rw [render_fillFrom_number rfl rfl, render_fillFrom_character (by decide)]
  rw [render_fillFrom_number rfl rfl, render_fillFrom_character (by decide)]
  rw [render_fillFrom_number rfl rfl, render_fillFrom_plain (by decide)]

/-- The numbers of a moment are small. -/
theorem clock_small (seconds : Int) :
    (Clock.ofSeconds seconds).month < 10 ^ 6 ∧ (Clock.ofSeconds seconds).day < 10 ^ 6 ∧
      (Clock.ofSeconds seconds).hour < 10 ^ 2 ∧ (Clock.ofSeconds seconds).minute < 10 ^ 2 ∧
      (Clock.ofSeconds seconds).second < 10 ^ 2 := by
  have inDay : (seconds.fmod 86400).toNat < 86400 := by
    have := Int.fmod_lt_of_pos seconds (show (0 : Int) < 86400 by decide)
    omega
  have inEra : ((seconds.fdiv 86400 + Clock.eraOffset).fmod Clock.eraDays).toNat < 146097 := by
    have := Int.fmod_lt_of_pos (seconds.fdiv 86400 + Clock.eraOffset)
      (show (0 : Int) < Clock.eraDays by decide)
    unfold Clock.eraDays at this ⊢
    omega
  simp only [Clock.ofSeconds, Clock.dayOfYear]
  -- Only the second of the day and the day of the era matter.
  generalize (seconds.fmod 86400).toNat = rest at inDay ⊢
  generalize ((seconds.fdiv 86400 + Clock.eraOffset).fmod Clock.eraDays).toNat = day at inEra ⊢
  generalize Clock.yearOfEra day = year
  have either {p : Prop} [Decidable p] {a b k : Nat} (left : a < k) (right : b < k) :
      (if p then a else b) < k := by
    split
    · exact left
    · exact right
  refine ⟨either (by omega) (by omega), ?_, ?_, ?_, ?_⟩
  · omega
  · omega
  · omega
  · omega

theorem room_builtinDateFormat : 5376 ≤ room (Settings.builtinDateFormat ++ " UTC") := by
  decide +kernel

/-- The time stamp of a moment in a year of four digits is zoned and short. -/
theorem zoned_fill {seconds : Int} (low : 1000 ≤ (Clock.ofSeconds seconds).year)
    (high : (Clock.ofSeconds seconds).year ≤ 9999) :
    Zoned (fill (Settings.builtinDateFormat ++ " UTC") seconds).toList ∧
      (fill (Settings.builtinDateFormat ++ " UTC") seconds).toList.length ≤ 31 := by
  obtain ⟨year, own⟩ : ∃ year : Nat, (Clock.ofSeconds seconds).year = year :=
    Int.eq_ofNat_of_zero_le (by omega)
  have rendered := render_builtinDateFormat own seconds
  obtain ⟨month, day, hour, minute, second⟩ := clock_small seconds
  have small : Piece.sizeOfAll (fillFrom seconds (Clock.ofSeconds seconds)
      (Settings.builtinDateFormat ++ " UTC").toList) ≤ 31 := by
    have isYear : (shownNumber 1 year).length ≤ 4 :=
      length_shownNumber_le (by decide) (by decide) (by omega)
    have short {k n : Nat} (fits : 2 ≤ k) (below : n < 10 ^ k) : (shownNumber 2 n).length ≤ k :=
      length_shownNumber_le fits (by omega) below
    have isMonth := short (by decide) month
    have isDay := short (by decide) day
    have isHour := short (by decide) hour
    have isMinute := short (by decide) minute
    have isSecond := short (by decide) second
    have zone : " UTC".toList.length = 4 := rfl
    have size := congrArg List.length rendered
    rw [Piece.render_length] at size
    simp only [List.length_append, List.length_cons] at size
    omega
  have fits := small.trans_lt ((by decide : 31 < 5376).trans_le room_builtinDateFormat)
  rw [fill, if_pos fits, String.toList_ofList, Piece.render_length, rendered]
  refine ⟨?_, small⟩
  exact .stamp (isNumber_shownNumber _ _) (isNumber_shownNumber _ _) (isNumber_shownNumber _ _)
    (isNumber_shownNumber _ _) (isNumber_shownNumber _ _) (isNumber_shownNumber _ _)

end DateFormat

/-- A record of a year of four digits has a time stamp. -/
theorem exists_zoned_stamp {r : Record} (year : InFourDigitYear r.time) :
    ∃ stamp, builtinFormatter.stamp r = .ok (some stamp) ∧ Zoned stamp.toList ∧
      stamp.toList.length ≤ 31 := by
  obtain ⟨seconds, second, low, high⟩ := year
  refine ⟨_, ?_, DateFormat.zoned_fill low high⟩
  have asks : Text.occurs "%(asctime)".toList builtinFormatter.template.toList = true := by decide
  have noNul : (Settings.builtinDateFormat ++ " UTC").contains '\x00' = false := by
    rw [String.contains_char_eq]
    decide
  have written : TimeStamp.writtenSecond r.time = .ok seconds := by
    have years : ¬ ((Clock.ofSeconds seconds).year - 1900 < Int32.minValue.toInt ∨
        Int32.maxValue.toInt < (Clock.ofSeconds seconds).year - 1900) := by
      have least : Int32.minValue.toInt = -2147483648 := rfl
      have most : Int32.maxValue.toInt = 2147483647 := rfl
      omega
    have whole : ¬ Int32.maxValue.toInt < (Clock.ofSeconds seconds).year := by
      have most : Int32.maxValue.toInt = 2147483647 := rfl
      omega
    simp only [TimeStamp.writtenSecond, TimeStamp.datedSecond, second, if_neg years, if_neg whole]
  rw [Formatter.stamp, asks]
  simp only [builtinFormatter, TimeStamp.ofLayout, written, noNul]
  rfl

/-! ## Lines -/

theorem exists_onNewLine (text addition : List Char) :
    ∃ more, Formatter.onNewLine text addition = text ++ more := by
  rw [Formatter.onNewLine]
  split
  · exact ⟨[], (List.append_nil text).symm⟩
  · split
    · exact ⟨addition, rfl⟩
    · exact ⟨_, rfl⟩

/-- The text of a record in the built-in layout, given its time stamp and its message: the report of
a failure and the stack stand behind the message. -/
def wholeText (r : Record) (stamp message : List Char) : List Char :=
  Formatter.onNewLine (Formatter.onNewLine
    (Template.builtinText stamp (levelName r.level).toList r.logger.toList message)
      r.report.toList) r.stack.toList

section Lines

variable {b : Bounds} {r : Record} {message : List Char} {stamp : String}

/-- The text is made if there is room for it. -/
theorem text_builtin (own : r.message b = .ok message)
    (stamped : builtinFormatter.stamp r = .ok (some stamp)) :
    builtinFormatter.text b r = if b.room < (wholeText r stamp.toList message).length then
      .error (.filling .tooLong) else .ok (wholeText r stamp.toList message) := by
  have fills := Template.fills_builtin b.depth Settings.builtinFormat.toList.length
    (r.fields message (some stamp)) rfl rfl rfl rfl
  rw [String.toList_ofList] at fills
  obtain ⟨pieces, rendered, filled⟩ := fills.fill_eq Settings.builtinFormat
  have whole : Formatter.whole r pieces = wholeText r stamp.toList message := by
    rw [Formatter.whole, rendered, wholeText]
  rw [← whole]
  exact Formatter.text_of_fill own stamped filled

/-- **The line of a record in the built-in layout.** It is made if there is room for the text of the
record, and it begins with the time stamp, the level and the name, whatever stands behind them. -/
theorem line_builtin (own : r.message b = .ok message)
    (stamped : builtinFormatter.stamp r = .ok (some stamp))
    (kept : ∀ part ∈ [stamp, levelName r.level, r.logger], ∀ c ∈ part.toList,
      ¬ TerminalSafe.Hidden c) :
    ((wholeText r stamp.toList message).length ≤ b.room ↔
        ∃ line, builtinFormatter.line b r = .ok line) ∧
      ∀ line, builtinFormatter.line b r = .ok line → ∃ rest,
        line =
          Template.builtinText stamp.toList (levelName r.level).toList r.logger.toList rest := by
  simp only [List.forall_mem_cons, List.not_mem_nil, IsEmpty.forall_iff, implies_true,
    and_true] at kept
  obtain ⟨stampKept, levelKept, nameKept⟩ := kept
  rw [Formatter.line, text_builtin own stamped]
  by_cases long : b.room < (wholeText r stamp.toList message).length
  · rw [if_pos long]
    refine ⟨iff_of_false (Nat.not_le.2 long) ?_, ?_⟩
    · rintro ⟨_, ⟨⟩⟩
    · rintro _ ⟨⟩
  rw [if_neg long]
  refine ⟨iff_of_true (Nat.le_of_not_lt long) ⟨_, rfl⟩, ?_⟩
  rintro _ ⟨⟩
  -- Reports are put behind the message, so the parts in front of it are sanitized alone.
  obtain ⟨report, withReport⟩ := exists_onNewLine (Template.builtinText stamp.toList
    (levelName r.level).toList r.logger.toList message) r.report.toList
  obtain ⟨stack, withStack⟩ := exists_onNewLine (_ ++ report) r.stack.toList
  have dashKept : ∀ c ∈ Template.dashed, ¬ TerminalSafe.Hidden c := by decide
  refine ⟨TerminalSafe.sanitize (message ++ (report ++ stack)), ?_⟩
  rw [wholeText, withReport, withStack]
  simp only [Template.builtinText, List.append_assoc]
  rw [TerminalSafe.sanitize_append_of_not_hidden stampKept,
    TerminalSafe.sanitize_append_of_not_hidden dashKept,
    TerminalSafe.sanitize_append_of_not_hidden levelKept,
    TerminalSafe.sanitize_append_of_not_hidden dashKept,
    TerminalSafe.sanitize_append_of_not_hidden nameKept,
    TerminalSafe.sanitize_append_of_not_hidden dashKept]

end Lines

end LedgerGateway.Log
