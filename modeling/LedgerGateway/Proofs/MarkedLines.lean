import LedgerGateway.Proofs.BuiltinLines
import LedgerGateway.Proofs.MarkedWords
import LedgerGateway.Proofs.UsualRecords

/-!
# Marked parts of a built-in line

The layout of a log line and the rules of the parts that are marked in it were written apart from
one another. They agree on the built-in layout: the time stamp is marked up to the letters of its
zone, and nothing behind it; the name of a logger is looked for between dashes, and none of the
dashes of the time stamp has a blank behind it; and the level is a word. So the three parts are
marked whatever the message holds, be it dashes, levels or time stamps.

* `scan_timestamp` — the time stamp that is found.
* `Quiet` — texts in which no name of a logger begins; `scan_loggerName`.
* `builtin_line_marked` — the spans of a built-in line.
-/

namespace LedgerGateway.Log.Highlight

open Template (builtinText dashed)
open Text (isWord isBlank forall_ascii)

/-! ## Characters -/

theorem increasing_blankRanges : Text.CodeRanges.Increasing Text.blankRanges := by
  simp [Text.CodeRanges.Increasing, Text.blankRanges]

/-- No blank stands in a word. -/
theorem not_isBlank_of_isWord {c : Char} (h : isWord c) : ¬ isBlank c := by
  intro blank
  -- The two tables have no code point in common.
  have apart : ∀ r ∈ Text.blankRanges, ∀ i < r.2 + 1 - r.1,
      Text.wordRanges.mem (r.1 + i) = false := by
    decide +kernel
  obtain ⟨r, mem, low, high⟩ := (Text.CodeRanges.mem_iff increasing_blankRanges _).1 blank
  have other := apart r mem (c.toNat - r.1) (by omega)
  rw [Nat.add_sub_cancel' low] at other
  exact Bool.false_ne_true (other.symm.trans h)

/-- No control character stands in a word. -/
theorem not_hidden_of_isWord {c : Char} (h : isWord c) : ¬ TerminalSafe.Hidden c := by
  intro hidden
  have low : c.toNat < 0x80 := by
    unfold TerminalSafe.Hidden TerminalSafe.Between at hidden
    omega
  exact forall_ascii (p := fun c => isWord c → ¬ TerminalSafe.Hidden c) (by decide +kernel) low h
    hidden

/-- What a property of words and of the dot says of the characters of names. -/
theorem forall_isNameCharacter {p : Char → Prop} (word : ∀ c, isWord c → p c) (dot : p '.')
    {c : Char} (h : isNameCharacter c) : p c := by
  rw [isNameCharacter, Bool.or_eq_true, decide_eq_true_eq] at h
  rcases h with own | rfl
  · exact word c own
  · exact dot

theorem not_isBlank_of_isNameCharacter {c : Char} (h : isNameCharacter c) : ¬ isBlank c :=
  forall_isNameCharacter (p := fun c => ¬ isBlank c) (fun _ => not_isBlank_of_isWord) (by decide) h

theorem not_hidden_of_isNameCharacter {c : Char} (h : isNameCharacter c) :
    ¬ TerminalSafe.Hidden c :=
  forall_isNameCharacter (p := fun c => ¬ TerminalSafe.Hidden c) (fun _ => not_hidden_of_isWord)
    (by decide) h

/-- The console drops no character that a line may hold. -/
theorem not_isDropped_of_not_hidden {c : Char} (h : ¬ TerminalSafe.Hidden c) : ¬ isDropped c := by
  unfold TerminalSafe.Hidden TerminalSafe.Between at h
  simp only [isDropped, Bool.or_eq_true, Bool.and_eq_true, decide_eq_true_eq]
  omega

/-! ## The time stamp -/

/-- The digits, and the marks between the numbers of a time stamp. -/
def stampCharacters : List Char := "0123456789-T: ".toList

theorem ascii_of_isDigit {c : Char} (h : c.isDigit) : c.toNat < 0x80 := by
  simp only [Char.isDigit, Bool.and_eq_true, decide_eq_true_eq, ge_iff_le,
    UInt32.le_iff_toNat_le] at h
  have nine : '9'.val.toNat = 0x39 := rfl
  change c.val.toNat < 0x80
  omega

theorem mem_stampCharacters_of_isNumber {ds : List Char} (number : IsNumber ds) :
    ∀ c ∈ ds, c ∈ stampCharacters := by
  intro c mem
  have digit := number.digits c mem
  exact forall_ascii (p := fun c => c.isDigit → c ∈ stampCharacters) (by decide +kernel)
    (ascii_of_isDigit digit) digit

/-- A time stamp ends with the letters of its zone. -/
theorem exists_front_of_zoned {s : List Char} (zoned : Zoned s) :
    ∃ front, s = front ++ "UTC".toList ∧ ∀ c ∈ front, c ∈ stampCharacters := by
  cases zoned with
  | @stamp year month day hour minute second isYear isMonth isDay isHour isMinute isSecond =>
    refine ⟨year ++ '-' :: (month ++ '-' :: (day ++ 'T' :: (hour ++ ':' :: (minute ++ ':' ::
      (second ++ [' ']))))), by simp, ?_⟩
    simp only [List.forall_mem_append, List.forall_mem_cons, List.not_mem_nil,
      IsEmpty.forall_iff, implies_true, and_true]
    exact ⟨mem_stampCharacters_of_isNumber isYear, by decide,
      mem_stampCharacters_of_isNumber isMonth, by decide,
      mem_stampCharacters_of_isNumber isDay, by decide,
      mem_stampCharacters_of_isNumber isHour, by decide,
      mem_stampCharacters_of_isNumber isMinute, by decide,
      mem_stampCharacters_of_isNumber isSecond, by decide⟩

/-- The letters of the zone are looked for behind characters that neither begin them nor end the
line. -/
theorem upToZone_append {front : List Char} (plain : ∀ c ∈ front, c ≠ '\n' ∧ c ≠ 'U')
    (s : List Char) : upToZone (front ++ s) = (upToZone s).map (· + front.length) := by
  induction front with
  | nil => cases own : upToZone s <;> simp [own]
  | cons c front ih =>
    obtain ⟨⟨noEnd, noLetter⟩, behind⟩ := List.forall_mem_cons.1 plain
    rw [List.cons_append, upToZone, ih behind]
    · cases upToZone s with
      | none => rfl
      | some n => simp [Nat.add_assoc]
    · exact noEnd
    · intro rest same
      exact absurd same noLetter

/-- Behind the beginning of a line no time stamp is looked for. -/
theorem scan_timestamp_some (c : Char) (s : List Char) (covered place : Nat) :
    scan timestamp (some c) covered place s = [] := by
  induction s generalizing c covered place with
  | nil => rfl
  | cons d rest ih =>
    cases covered with
    | succ n => exact ih d n (place + 1)
    | zero =>
      have miss : timestamp (some c) (d :: rest) = none := rfl
      rw [scan_miss miss, ih]

/-- A time stamp at the beginning of a line is found, and nothing else. -/
theorem scan_timestamp {stamp : List Char} (zoned : Zoned stamp) (rest : List Char) :
    scan timestamp none 0 0 (stamp ++ rest) = [(0, stamp.length)] := by
  obtain ⟨front, rfl, inside⟩ := exists_front_of_zoned zoned
  have plain : ∀ c ∈ front, c ≠ '\n' ∧ c ≠ 'U' := by
    have all : ∀ c ∈ stampCharacters, c ≠ '\n' ∧ c ≠ 'U' := by decide
    exact fun c mem => all c (inside c mem)
  have zone : upToZone ("UTC".toList ++ rest) = some 3 := rfl
  have hit : timestamp none (front ++ "UTC".toList ++ rest) =
      some ⟨0, (front ++ "UTC".toList).length⟩ := by
    rw [List.append_assoc, timestamp, upToZone_append plain, zone, List.length_append]
    simp [Nat.add_comm]
  have last : (front ++ "UTC".toList).getLast? = some 'C' := by
    rw [List.getLast?_append]
    rfl
  rw [scan_hit (by simp) (Nat.zero_add _) hit, last, Option.some_or, scan_timestamp_some,
    Nat.add_zero, Nat.zero_add]

/-! ## The name of the logger -/

/-- Each dash of the text has a character behind it that is not blank. -/
inductive Quiet : List Char → Prop where
  | nil : Quiet []
  | other {c : Char} {s : List Char} : c ≠ '-' → Quiet s → Quiet (c :: s)
  | dash {c : Char} {s : List Char} : ¬ isBlank c → Quiet (c :: s) → Quiet ('-' :: c :: s)

theorem Quiet.append {s t : List Char} (plain : ∀ c ∈ s, c ≠ '-') (quiet : Quiet t) :
    Quiet (s ++ t) := by
  induction s with
  | nil => exact quiet
  | cons c s ih =>
    obtain ⟨own, behind⟩ := List.forall_mem_cons.1 plain
    exact .other own (ih behind)

theorem quiet_number {ds t : List Char} (number : IsNumber ds) (quiet : Quiet t) :
    Quiet (ds ++ t) := by
  refine .append (fun d mem => ?_) quiet
  rintro rfl
  exact absurd (number.digits _ mem) (by decide)

/-- A dash in front of a number. -/
theorem quiet_dash {ds t : List Char} (number : IsNumber ds) (quiet : Quiet t) :
    Quiet ('-' :: (ds ++ t)) := by
  have whole := quiet_number number quiet
  obtain ⟨d, ds, rfl⟩ := List.exists_cons_of_ne_nil number.nonempty
  have digit := number.digits d List.mem_cons_self
  have word : isWord d := forall_ascii (p := fun c => c.isDigit → isWord c) (by decide +kernel)
    (ascii_of_isDigit digit) digit
  exact .dash (not_isBlank_of_isWord word) whole

/-- No name of a logger begins in a time stamp. -/
theorem quiet_of_zoned {s : List Char} (zoned : Zoned s) : Quiet s := by
  have zone : Quiet " UTC".toList := by
    have plain : ∀ c ∈ " UTC".toList, c ≠ '-' := by decide
    simpa using Quiet.append plain .nil
  cases zoned with
  | stamp isYear isMonth isDay isHour isMinute isSecond =>
    refine quiet_number isYear (quiet_dash isMonth (quiet_dash isDay (.other (by decide) ?_)))
    refine quiet_number isHour (.other (by decide) (quiet_number isMinute (.other (by decide) ?_)))
    exact quiet_number isSecond zone

theorem dash_dash (s : List Char) : dash ('-' :: s) = some s := rfl

/-- A run of a class of characters at the front of a text. -/
theorem run_append {p : Char → Bool} {w : List Char} (nonempty : w ≠ []) (inside : ∀ c ∈ w, p c)
    (rest : List Char) (stop : ∀ c ∈ rest.head?, ¬ p c) :
    run p (w ++ rest) = some (w.length, rest) := by
  rw [run, takeWhile_append_of_stop inside stop]
  split
  · next empty => exact absurd (List.length_eq_zero_iff.1 empty) nonempty
  · rw [List.drop_left]

/-- The search for the name of a logger passes over such a text. -/
theorem scan_quiet {s : List Char} (quiet : Quiet s) (rest : List Char) (before : Option Char)
    (place : Nat) : ∃ before', scan loggerName before 0 place (s ++ rest) =
      scan loggerName before' 0 (place + s.length) rest := by
  -- The rule begins with a dash and a blank, and no step of the text offers both.
  induction quiet generalizing before place with
  | nil => exact ⟨before, rfl⟩
  | @other c s other _ ih =>
    have miss : loggerName before (c :: (s ++ rest)) = none := by
      have noDash : dash (c :: (s ++ rest)) = none := by
        unfold dash
        split
        · next same => exact absurd (List.head_eq_of_cons_eq same) other
        · rfl
      rw [loggerName, noDash]
      rfl
    obtain ⟨before', same⟩ := ih (some c) (place + 1)
    refine ⟨before', ?_⟩
    rw [List.cons_append, scan_miss miss, same, List.length_cons, Nat.add_right_comm]
    rfl
  | @dash c s other _ ih =>
    have miss : loggerName before ('-' :: (c :: s ++ rest)) = none := by
      have noBlank : run isBlank (c :: s ++ rest) = none := by
        rw [run, List.cons_append, List.takeWhile_cons_of_neg other]
        rfl
      simp only [loggerName, dash_dash, noBlank, Option.bind_eq_bind, Option.bind_some,
        Option.bind_none]
    obtain ⟨before', same⟩ := ih (some '-') (place + 1)
    refine ⟨before', ?_⟩
    rw [List.cons_append, scan_miss miss, same, List.length_cons, Nat.add_right_comm]
    rfl

/-- The name of a logger behind a word. -/
theorem loggerName_between {level name : List Char} (isLevel : level ≠ [])
    (word : ∀ c ∈ level, isWord c) (isName : name ≠ []) (letters : ∀ c ∈ name, isNameCharacter c)
    (before : Option Char) (rest : List Char) :
    loggerName before ('-' :: ' ' :: (level ++ (dashed ++ (name ++ (dashed ++ rest))))) =
      some ⟨level.length + 5, name.length⟩ := by
  have firstOf {w : List Char} (nonempty : w ≠ []) (more : List Char) :
      ∀ c ∈ (w ++ more).head?, c ∈ w := by
    intro c first
    obtain ⟨d, u, rfl⟩ := List.exists_cons_of_ne_nil nonempty
    obtain rfl : d = c := Option.some.inj first
    exact List.mem_cons_self
  have space (more : List Char) (stop : ∀ c ∈ more.head?, ¬ isBlank c) :
      run isBlank (' ' :: more) = some (1, more) :=
    run_append (w := [' ']) (by decide) (by decide) more stop
  -- The parts of the rule, in the order in which it reads them.
  have firstSpace := space (level ++ (dashed ++ (name ++ (dashed ++ rest))))
    fun c first => not_isBlank_of_isWord (word c (firstOf isLevel _ c first))
  have wordRun := run_append isLevel word (dashed ++ (name ++ (dashed ++ rest)))
    (by rintro c ⟨⟩; decide)
  have secondSpace := space ('-' :: ' ' :: (name ++ (dashed ++ rest)))
    (by rintro c ⟨⟩; decide)
  have thirdSpace := space (name ++ (dashed ++ rest))
    fun c first => not_isBlank_of_isNameCharacter (letters c (firstOf isName _ c first))
  have nameRun := run_append isName letters (dashed ++ rest) (by rintro c ⟨⟩; decide)
  have betweenDash : run isBlank (dashed ++ (name ++ (dashed ++ rest))) =
      some (1, '-' :: ' ' :: (name ++ (dashed ++ rest))) := secondSpace
  have next : dashNext (dashed ++ rest) = true := rfl
  simp only [loggerName, dash_dash, firstSpace, wordRun, betweenDash, thirdSpace, nameRun, next,
    Option.bind_eq_bind, Option.bind_some, if_true]
  congr 2
  omega

section Lines

variable {stamp level name rest : List Char}

/-- The first name that is found in a line is that of its logger. -/
theorem scan_loggerName (zoned : Zoned stamp) (isLevel : level ≠ []) (word : ∀ c ∈ level, isWord c)
    (isName : name ≠ []) (letters : ∀ c ∈ name, isNameCharacter c) :
    (scan loggerName none 0 0 (builtinText stamp level name rest)).head? =
      some (stamp.length + level.length + 6, stamp.length + level.length + 6 + name.length) := by
  obtain ⟨before, behindStamp⟩ := scan_quiet (quiet_of_zoned zoned)
    (dashed ++ (level ++ (dashed ++ (name ++ (dashed ++ rest))))) none 0
  -- The blank of the first dash still belongs to what is passed over.
  have space : Quiet [' '] := .other (by decide) .nil
  obtain ⟨before', behindSpace⟩ := scan_quiet space
    ('-' :: ' ' :: (level ++ (dashed ++ (name ++ (dashed ++ rest))))) before (0 + stamp.length)
  have split : '-' :: ' ' :: (level ++ (dashed ++ (name ++ (dashed ++ rest)))) =
      '-' :: ' ' :: (level ++ (dashed ++ name)) ++ (dashed ++ rest) := by
    simp
  have hit := loggerName_between isLevel word isName letters before' rest
  have covers : level.length + 5 + name.length =
      ('-' :: ' ' :: (level ++ (dashed ++ name))).length := by
    have three : dashed.length = 3 := rfl
    simp only [List.length_cons, List.length_append]
    omega
  have next : scan loggerName before 0 (0 + stamp.length)
      (dashed ++ (level ++ (dashed ++ (name ++ (dashed ++ rest))))) =
        scan loggerName before' 0 (0 + stamp.length + 1)
          ('-' :: ' ' :: (level ++ (dashed ++ (name ++ (dashed ++ rest))))) := behindSpace
  rw [builtinText, behindStamp, next]
  rw [split] at hit ⊢
  rw [scan_hit (List.cons_ne_nil _ _) covers hit, ← covers, List.head?_cons]
  congr 2
  · omega
  · omega

/-- The level of a line is a word. -/
theorem wordAt_level (isLevel : level ≠ []) (word : ∀ c ∈ level, isWord c) :
    WordAt (builtinText stamp level name rest) (stamp.length + 3) level where
  nonempty := isLevel
  inside := word
  cut := by
    refine ⟨stamp ++ dashed, dashed ++ (name ++ (dashed ++ rest)), by simp [builtinText],
      List.length_append, ?_, ?_⟩
    · have last : (stamp ++ dashed).getLast? = some ' ' := by
        rw [List.getLast?_append]
        rfl
      rintro d same
      obtain rfl := Option.some.inj (last.symm.trans same)
      decide
    · rintro d ⟨⟩
      decide

end Lines

/-- The parts of a built-in line are marked: its time stamp and nothing else as such, its level, and
the name of its logger before all other names. -/
structure PartsMarked (line : String) (stamp level name : List Char) (mark : Mark) : Prop where
  text : ∃ rest, line.toList = builtinText stamp level name rest
  stampSpan : spansOf .timestamp line = [⟨0, stamp.length, .timestamp⟩]
  levelSpan : ⟨stamp.length + 3, stamp.length + 3 + level.length, mark⟩ ∈ spansOf mark line
  nameSpan : (spansOf .loggerName line).head? = some
    ⟨stamp.length + level.length + 6, stamp.length + level.length + 6 + name.length, .loggerName⟩

/-- A level that is in use, and how its name is marked. -/
inductive MarkedLevel : Int → Mark → Prop where
  | debug : MarkedLevel 10 .levelDebug
  | info : MarkedLevel 20 .levelInfo
  | warning : MarkedLevel 30 .levelWarning
  | error : MarkedLevel 40 .levelError
  | critical : MarkedLevel 50 .levelCritical

theorem MarkedLevel.form {level : Int} {mark : Mark} (h : MarkedLevel level mark) :
    Form mark (levelName level).toList := by
  cases h
  · exact .debug
  · exact .info
  · exact .warning
  · exact .error
  · exact .critical

theorem MarkedLevel.mem_wordMarks {level : Int} {mark : Mark} (h : MarkedLevel level mark) :
    mark ∈ wordMarks := by
  cases h
  all_goals decide

/-- A line of such parts is marked so, if the console drops nothing of it. -/
theorem partsMarked {line stamp level name rest : List Char} {mark : Mark} (zoned : Zoned stamp)
    (known : mark ∈ wordMarks) (form : Form mark level) (isName : name ≠ [])
    (letters : ∀ c ∈ name, isNameCharacter c) (text : line = builtinText stamp level name rest)
    (kept : ∀ c ∈ line, ¬ isDropped c) :
    PartsMarked (String.ofList line) stamp level name mark := by
  obtain ⟨shape, -, shapes⟩ := exists_shapes known
  have isLevel := shapes.nonempty level form
  have word := shapes.inside level form
  have whole : shown (String.ofList line) = builtinText stamp level name rest := by
    rw [shown_of_not_isDropped (by rwa [String.toList_ofList]), String.toList_ofList, text]
  refine ⟨⟨rest, by rw [String.toList_ofList, text]⟩, ?_, ?_, ?_⟩
  · have found : scan timestamp none 0 0 (builtinText stamp level name rest) = _ :=
      scan_timestamp zoned _
    rw [spansOf_eq, whole, rule, found]
    rfl
  · refine ((marksWords_shown _ known).exact _ _).2 ⟨level, ?_, rfl, form⟩
    rw [whole]
    exact wordAt_level isLevel word
  · rw [spansOf_eq, whole, List.head?_map, rule,
      scan_loggerName zoned isLevel word isName letters]
    rfl

/-- **What is marked in a built-in line.** A record in a year of four digits has a time stamp. If
its level is one of the five in use and the name of its logger is made of word characters and dots,
the time stamp, the level and the name are marked in its line, whatever its message is; and the line
is made exactly if there is room for its text. -/
theorem builtin_line_marked {b : Bounds} {r : Record} {mark : Mark} {message : List Char}
    (named : r.logger ≠ "") (letters : ∀ c ∈ r.logger.toList, isNameCharacter c)
    (level : MarkedLevel r.level mark) (year : InFourDigitYear r.time)
    (own : r.message b = .ok message) :
    ∃ stamp, builtinFormatter.stamp r = .ok (some stamp) ∧ Zoned stamp.toList ∧
      ((wholeText r stamp.toList message).length ≤ b.room ↔
        ∃ line, builtinFormatter.line b r = .ok line) ∧
      ∀ line, builtinFormatter.line b r = .ok line →
        PartsMarked (String.ofList line) stamp.toList (levelName r.level).toList r.logger.toList
          mark := by
  obtain ⟨stamp, stamped, zoned, -⟩ := exists_zoned_stamp year
  have form := level.form
  have known := level.mem_wordMarks
  obtain ⟨shape, -, shapes⟩ := exists_shapes known
  have isName : r.logger.toList ≠ [] := by simpa using named
  have stampKept : ∀ c ∈ stamp.toList, ¬ TerminalSafe.Hidden c := by
    obtain ⟨front, same, inside⟩ := exists_front_of_zoned zoned
    have all : ∀ c ∈ stampCharacters, ¬ TerminalSafe.Hidden c := by decide
    have zone : ∀ c ∈ "UTC".toList, ¬ TerminalSafe.Hidden c := by decide
    rw [same, List.forall_mem_append]
    exact ⟨fun c mem => all c (inside c mem), zone⟩
  have levelKept : ∀ c ∈ (levelName r.level).toList, ¬ TerminalSafe.Hidden c :=
    fun c mem => not_hidden_of_isWord (shapes.inside _ form c mem)
  have nameKept : ∀ c ∈ r.logger.toList, ¬ TerminalSafe.Hidden c :=
    fun c mem => not_hidden_of_isNameCharacter (letters c mem)
  obtain ⟨made, begins⟩ :=
    line_builtin own stamped (by simpa using ⟨stampKept, levelKept, nameKept⟩)
  refine ⟨stamp, stamped, zoned, made, ?_⟩
  intro line shown
  obtain ⟨rest, text⟩ := begins line shown
  refine partsMarked zoned known form isName letters text ?_
  obtain ⟨laidOut, -, rfl⟩ := map_eq_ok_iff.1 shown
  intro c mem
  exact not_isDropped_of_not_hidden (TerminalSafe.not_hidden_of_mem_sanitize mem)

/-- A record whose message looks like a line. -/
def misleadingRecord : Record :=
  .plain plainHost "seth_rpc.app" infoLevel (.string "UTC - ERROR - root - it broke") []

theorem builtin_line_marked_misleading :
    misleadingRecord.logger ≠ "" ∧ (∀ c ∈ misleadingRecord.logger.toList, isNameCharacter c) ∧
      MarkedLevel misleadingRecord.level .levelInfo ∧ InFourDigitYear misleadingRecord.time ∧
      misleadingRecord.message plainHost.toBounds =
        .ok "UTC - ERROR - root - it broke".toList ∧
      ∃ stamp line, builtinFormatter.stamp misleadingRecord = .ok (some stamp) ∧
        builtinFormatter.line plainHost.toBounds misleadingRecord = .ok line ∧
        PartsMarked (String.ofList line) stamp.toList "INFO".toList "seth_rpc.app".toList
          .levelInfo := by
  have named : misleadingRecord.logger ≠ "" := by decide
  have letters : ∀ c ∈ misleadingRecord.logger.toList, isNameCharacter c := by decide
  have year : InFourDigitYear misleadingRecord.time := ⟨1, by decide +kernel, by decide, by decide⟩
  have own : misleadingRecord.message plainHost.toBounds =
      .ok "UTC - ERROR - root - it broke".toList := rfl
  have level : MarkedLevel misleadingRecord.level .levelInfo := .info
  obtain ⟨stamp, stamped, -, made, marked⟩ := builtin_line_marked named letters level year own
  obtain ⟨stamp', stamped', -, short⟩ := exists_zoned_stamp year
  obtain rfl : stamp' = stamp := Option.some.inj (Except.ok.inj (stamped'.symm.trans stamped))
  have fits : (wholeText misleadingRecord stamp'.toList
      "UTC - ERROR - root - it broke".toList).length ≤ plainHost.room := by
    show (stamp'.toList ++ " - INFO - seth_rpc.app - UTC - ERROR - root - it broke".toList).length ≤
      1000000
    rw [List.length_append]
    exact (Nat.add_le_add_right short _).trans (by decide)
  obtain ⟨line, shown⟩ := made.1 fits
  exact ⟨named, letters, level, year, own, stamp', line, stamped, shown, marked line shown⟩

end LedgerGateway.Log.Highlight
