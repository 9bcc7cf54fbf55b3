import LedgerGateway.Log.Formatter
import LedgerGateway.Proofs.EscapeSequences
import LedgerGateway.Proofs.FilledTemplates
import LedgerGateway.Proofs.UsualRecords

/-!
# What a log line may do to a terminal

A log line should hold no control character but tabs and line feeds, whatever was logged. The
control characters of ASCII are hidden, and with them every escape character; but a terminal knows
a second set of them, U+0080 to U+009F, each of which is an escape sequence in a single character.
None of these is ever taken out, so a line is harmless exactly if none of them was laid out.

* `Harmless` — a line without control characters; `harmless_sanitize_iff`.
* `harmless_line_iff` — the records that are shown by harmless lines.
-/

namespace LedgerGateway.Log

open TerminalSafe

/-- The character is a control character: one of ASCII, or of the second set above it. -/
def IsControl (c : Char) : Prop := c.toNat ≤ 0x1F ∨ Between 0x7F 0x9F c

/-- The character is a control character of the second set. -/
def IsHighControl (c : Char) : Prop := Between 0x80 0x9F c

instance (c : Char) : Decidable (IsHighControl c) :=
  inferInstanceAs (Decidable (Between 0x80 0x9F c))

/-- The only control characters of a line are tabs and line feeds. -/
def Harmless (line : List Char) : Prop := ∀ c ∈ line, IsControl c → c = '\t' ∨ c = '\n'

/-! ## Texts -/

/-- A control character is hidden, or it is one of the second set, or it does no harm. -/
theorem isControl_cases {c : Char} (h : IsControl c) :
    Hidden c ∨ IsHighControl c ∨ c = '\t' ∨ c = '\n' := by
  have tab : c = '\t' ↔ c.toNat = 0x9 := Char.toNat_inj.symm
  have lineFeed : c = '\n' ↔ c.toNat = 0xA := Char.toNat_inj.symm
  rw [tab, lineFeed]
  unfold IsControl Between at h
  unfold Hidden IsHighControl Between
  omega

theorem IsHighControl.isControl {c : Char} (h : IsHighControl c) : IsControl c := by
  unfold IsHighControl Between at h
  unfold IsControl Between
  omega

theorem IsHighControl.not_hidden {c : Char} (h : IsHighControl c) : ¬ Hidden c := by
  unfold IsHighControl Between at h
  unfold Hidden Between
  omega

theorem IsHighControl.ne {c d : Char} (h : IsHighControl c) (ascii : d.toNat < 0x80) : c ≠ d := by
  rintro rfl
  exact absurd h.1 (Nat.not_le.2 ascii)

/-- The controls of the second set are in no escape sequence, so they are all shown. -/
theorem mem_sanitize_of_isHighControl {s : List Char} {c : Char} (high : IsHighControl c) :
    c ∈ sanitize s ↔ c ∈ s := by
  constructor
  · intro mem
    exact (sanitize_sublist s).subset mem
  · intro mem
    obtain ⟨parts, scan, -⟩ := exists_scan s
    rw [scan.sanitize_eq]
    rw [← scan.text_eq] at mem
    obtain ⟨part, own, inside⟩ := List.mem_flatMap.1 mem
    refine List.mem_flatMap.2 ⟨part, own, ?_⟩
    cases part with
    | sequence q =>
      have ascii := (scan.isSequence own).ascii c inside
      exact absurd high.1 (Nat.not_le.2 ascii)
    | single d =>
      obtain rfl := List.mem_singleton.1 inside
      rw [Part.shown, if_neg high.not_hidden]
      exact List.mem_singleton_self _

/-- What is shown of a text is harmless unless there is a control of the second set in it. -/
theorem harmless_sanitize_iff (s : List Char) :
    Harmless (sanitize s) ↔ ∀ c ∈ s, ¬ IsHighControl c := by
  constructor
  · intro harmless c mem high
    rcases harmless c ((mem_sanitize_of_isHighControl high).2 mem) high.isControl with tab | lineFeed
    · exact high.ne (by decide) tab
    · exact high.ne (by decide) lineFeed
  · intro none c mem control
    rcases isControl_cases control with hidden | high | fine
    · exact absurd hidden (not_hidden_of_mem_sanitize mem)
    · exact absurd high (none c ((sanitize_sublist s).subset mem))
    · exact fine

/-! ## Lines -/

namespace Formatter

theorem mem_onNewLine_iff {text addition : List Char} {c : Char} (other : c ≠ '\n') :
    c ∈ onNewLine text addition ↔ c ∈ text ∨ c ∈ addition := by
  rw [onNewLine]
  split
  · next empty => simp [List.isEmpty_iff.1 empty]
  · split
    · exact List.mem_append
    · simp [other]

end Formatter

/-- **Which lines are harmless.** A record that can be shown is shown by a harmless line exactly if
there is no control of the second set in what the template makes of it, in its report or in its
stack. -/
theorem harmless_line_iff (b : Bounds) (f : Formatter) (r : Record) :
    (∀ line, f.line b r = .ok line → Harmless line) ↔
      ∀ pieces, f.pieces b r = .ok pieces → (Formatter.whole r pieces).length ≤ b.room →
        ∀ c, IsHighControl c →
          c ∉ Piece.render pieces ∧ c ∉ r.report.toList ∧ c ∉ r.stack.toList := by
  rw [Formatter.line, Formatter.text]
  cases f.pieces b r with
  | error fault => exact iff_of_true (by rintro _ ⟨⟩) (by rintro _ ⟨⟩)
  | ok pieces =>
    by_cases long : b.room < (Formatter.whole r pieces).length
    · simp only [if_pos long]
      refine iff_of_true (by rintro _ ⟨⟩) ?_
      rintro _ ⟨⟩ fits
      exact absurd long (Nat.not_lt.2 fits)
    simp only [if_neg long, Except.map, Except.ok.injEq, forall_eq', harmless_sanitize_iff,
      Nat.le_of_not_lt long, forall_const]
    constructor
    · intro none c high
      have other : c ≠ '\n' := high.ne (by decide)
      have out (mem : c ∈ Formatter.whole r pieces) : False := none c mem high
      simp only [Formatter.whole, Formatter.mem_onNewLine_iff other] at out
      refine ⟨?_, ?_, ?_⟩
      · intro inText
        exact out (.inl (.inl inText))
      · intro inReport
        exact out (.inl (.inr inReport))
      · intro inStack
        exact out (.inr inStack)
    · intro none c mem high
      have other : c ≠ '\n' := high.ne (by decide)
      obtain ⟨notText, notReport, notStack⟩ := none c high
      simp only [Formatter.whole, Formatter.mem_onNewLine_iff other] at mem
      rcases mem with (inText | inReport) | inStack
      · exact notText inText
      · exact notReport inReport
      · exact notStack inStack

open Template in
/-- The template of the message alone lays the message out as it is, if there is room for it. -/
theorem fill_message {b : Bounds} {entries : List (String × Datum)} {message : String}
    (found : entries.lookup "message" = some (.string message))
    (short : message.toList.length ≤ b.room) :
    ∃ pieces, fill b "%(message)s" (.ofTable entries) = .ok pieces ∧
      Piece.render pieces = message.toList := by
  have keyed := (Supply.ofTable_keyed entries).spent
  have fills := Fills.directive (s := .ofTable entries)
    (fills_nil keyed b.depth "%(message)s".toList.length) (by decide) rfl found
  rw [List.append_nil] at fills
  obtain ⟨pieces, rendered, filled⟩ := fills.fill_eq "%(message)s"
  rw [← rendered, Piece.render_length] at short
  exact ⟨pieces, by rw [filled, if_neg (Nat.not_lt.2 short)], rendered⟩

/-- The record of a message that clears the screen of a terminal, by a control of the second set. -/
def clearingRecord : Record := .plain plainHost "root" infoLevel (.string "\x9b2J") []

theorem clearingRecord_line :
    Formatter.line plainHost.toBounds ⟨"%(message)s", none⟩ clearingRecord =
      .ok ['\x9b', '2', 'J'] := by
  have message : clearingRecord.message plainHost.toBounds = .ok ['\x9b', '2', 'J'] := rfl
  have stamp : Formatter.stamp ⟨"%(message)s", none⟩ clearingRecord = .ok none := rfl
  have found : (clearingRecord.fields ['\x9b', '2', 'J'] none).lookup "message" =
      some (.string "\x9b2J") := rfl
  obtain ⟨pieces, filled, rendered⟩ := fill_message (b := plainHost.toBounds) found (by decide)
  have whole : Formatter.whole clearingRecord pieces = ['\x9b', '2', 'J'] := by
    rw [Formatter.whole, rendered]
    rfl
  have shown : sanitize ['\x9b', '2', 'J'] = ['\x9b', '2', 'J'] := by cbv
  have room : ¬ plainHost.room < ['\x9b', '2', 'J'].length := by decide
  simp only [Formatter.line, Formatter.text, Formatter.pieces, message, stamp, filled,
    Except.mapError, whole, if_neg room]
  exact congrArg Except.ok shown

/-- A line of this record is not harmless. -/
theorem not_harmless_clearingRecord :
    ¬ ∀ line, Formatter.line plainHost.toBounds ⟨"%(message)s", none⟩ clearingRecord = .ok line →
      Harmless line := by
  intro h
  rcases h _ clearingRecord_line '\x9b' (by decide) (.inr (by decide)) with tab | lineFeed
  · cases tab
  · cases lineFeed

end LedgerGateway.Log
