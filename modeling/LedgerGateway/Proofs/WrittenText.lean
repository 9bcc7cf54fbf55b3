import LedgerGateway.Json.Writer
import LedgerGateway.Proofs.JsonTexts
import LedgerGateway.Proofs.WrittenStrings

/-!
# The characters of written JSON

Numbers are written in digits, signs, points and the letter of an exponent; so a value can be told
to be null by the first character of its text, and two objects whose first members agree differ in
the text of the next. Control characters are escaped in strings and stand nowhere else, so a written
value is a single line.

* `numeric_intText`, `numeric_toChars` — the characters of numbers.
* `eq_null_of_head` — only null begins with an `n`.
* `visible_writeChars` — no control character stands in a written value.
-/

namespace LedgerGateway.Decimal

/-! ## The characters of numbers -/

/-- Nothing but digits, signs, points and the letter of an exponent. -/
def Numeric (s : List Char) : Prop := ∀ c ∈ s, c.isDigit = true ∨ c ∈ ['-', '+', '.', 'e']

theorem Numeric.append {s t : List Char} (h : Numeric s) (h' : Numeric t) : Numeric (s ++ t) := by
  intro c mem
  obtain mem | mem := List.mem_append.1 mem
  · exact h c mem
  · exact h' c mem

theorem Numeric.cons {c : Char} {s : List Char} (h : c.isDigit = true ∨ c ∈ ['-', '+', '.', 'e'])
    (h' : Numeric s) : Numeric (c :: s) := by
  intro d mem
  obtain rfl | mem := List.mem_cons.1 mem
  · exact h
  · exact h' d mem

theorem Numeric.of_subset {s t : List Char} (h : Numeric t) (sub : ∀ c ∈ s, c ∈ t) : Numeric s :=
  fun c mem => h c (sub c mem)

theorem numeric_nil : Numeric [] := fun c mem => absurd mem (by simp)

theorem numeric_zeros (n : Nat) : Numeric (List.replicate n '0') := by
  intro c mem
  rw [List.eq_of_mem_replicate mem]
  exact .inl (by decide)

theorem numeric_digits (n : Nat) : Numeric (digits n) :=
  fun _ mem => .inl (Nat.isDigit_of_mem_toDigits (by decide) (by decide) mem)

theorem numeric_intText (n : Int) : Numeric (intText n).toList := by
  cases n with
  | ofNat m =>
    show Numeric (Nat.repr m).toList
    rw [Nat.toList_repr]
    exact numeric_digits m
  | negSucc m =>
    show Numeric ("-" ++ Nat.repr (m + 1)).toList
    rw [String.toList_append, Nat.toList_repr]
    exact .cons (by decide) (numeric_digits (m + 1))

namespace Scientific

theorem numeric_exponentText (e : Int) : Numeric (exponentText e) := by
  have ds := numeric_digits e.natAbs
  unfold exponentText
  refine .cons (by decide) (.cons ?_ ?_)
  · split <;> decide
  · split
    · exact .cons (by decide) ds
    · exact ds

theorem numeric_text {s : Scientific} (h : Numeric s.digits) : Numeric s.text := by
  unfold text
  split
  · unfold positional
    split
    · exact .cons (by decide) (.cons (by decide) ((numeric_zeros _).append h))
    · exact .cons (by decide) (.cons (by decide) h)
    · next k _ =>
      refine .append (.append (h.of_subset fun _ => List.mem_of_mem_take) (numeric_zeros _)) ?_
      refine .cons (by decide) ?_
      split
      · exact .cons (by decide) numeric_nil
      · exact h.of_subset fun _ => List.mem_of_mem_drop
  · unfold scientific
    split
    · exact .cons (by decide) numeric_nil
    · next d eq =>
      rw [eq] at h
      exact .cons (h d (by simp)) (numeric_exponentText _)
    · next d ds _ eq =>
      rw [eq] at h
      exact .cons (h d (by simp)) (.cons (by decide)
        ((h.of_subset fun _ => List.mem_cons_of_mem d).append (numeric_exponentText _)))

theorem numeric_ofCoefficient (coefficient : Nat) (exponent : Int) :
    Numeric (ofCoefficient coefficient exponent).digits := by
  refine (numeric_digits coefficient).of_subset fun c mem => ?_
  have mem := List.mem_reverse.1 mem
  exact List.mem_reverse.1 ((List.dropWhile_sublist _).mem mem)

theorem numeric_shortest (mantissa : Nat) (exponent : Int) :
    Numeric (shortest mantissa exponent).digits := by
  have grid (count : Nat) (s : Scientific) (h : onGrid? mantissa exponent count = some s) :
      Numeric s.digits := by
    unfold onGrid? at h
    simp only at h
    split at h
    · rw [← Option.some.inj h]
      exact numeric_ofCoefficient _ _
    · rw [← Option.some.inj h]
      exact numeric_ofCoefficient _ _
    · rw [← Option.some.inj h]
      exact numeric_ofCoefficient _ _
    · exact absurd h (by simp)
  unfold shortest
  simp only
  cases found : (List.range 17).findSome? fun i => onGrid? mantissa exponent (i + 1) with
  | none => exact numeric_ofCoefficient _ _
  | some s =>
    obtain ⟨i, -, eq⟩ := List.exists_of_findSome?_eq_some found
    exact grid _ s eq

end Scientific

theorem numeric_toChars (negative : Bool) (mantissa : Nat) (exponent : Int) :
    Numeric (Binary64.finite negative mantissa exponent).toChars := by
  unfold Binary64.toChars
  refine .append ?_ ?_
  · split
    · exact .cons (by decide) numeric_nil
    · exact numeric_nil
  · split
    · exact .cons (by decide) (.cons (by decide) (.cons (by decide) numeric_nil))
    · exact Scientific.numeric_text (Scientific.numeric_shortest _ _)

theorem Numeric.head_ne {s : List Char} (h : Numeric s) : s.head? ≠ some 'n' := by
  intro head
  exact absurd (h 'n' (List.mem_of_mem_head? head)) (by decide)

end LedgerGateway.Decimal

namespace LedgerGateway.Json

/-- Only null begins with an `n`. -/
theorem eq_null_of_head {style : Style} {v : Json}
    (h : (writeChars style v).head? = some 'n') : v = .null := by
  cases v with
  | null => rfl
  | bool b => cases b <;> exact absurd h (by simp [writeChars])
  | int n => exact absurd h (by
      rw [writeChars]
      exact (Decimal.numeric_intText n).head_ne)
  | float x =>
    rw [writeChars] at h
    cases x with
    | nan => exact absurd h (by decide)
    | infinite negative => cases negative <;> exact absurd h (by decide)
    | finite negative mantissa exponent =>
      exact absurd h (Decimal.numeric_toChars negative mantissa exponent).head_ne
  | string s => exact absurd h (by simp [writeChars, writeString])
  | array items => cases items <;> exact absurd h (by simp [writeChars])
  | object members => cases members <;> exact absurd h (by simp [writeChars])

/-! ## Control characters -/

/-- No character of the text is a control character of ASCII. -/
def Visible (s : List Char) : Prop := ∀ c ∈ s, 0x20 ≤ c.toNat

instance (s : List Char) : Decidable (Visible s) :=
  inferInstanceAs (Decidable (∀ c ∈ s, 0x20 ≤ c.toNat))

section Visible

variable {style : Style} {s t : List Char}

theorem Visible.append (h : Visible s) (h' : Visible t) : Visible (s ++ t) :=
  List.forall_mem_append.2 ⟨h, h'⟩

theorem Visible.cons {c : Char} (own : 0x20 ≤ c.toNat) (h : Visible s) : Visible (c :: s) :=
  List.forall_mem_cons.2 ⟨own, h⟩

theorem visible_numeric (h : Decimal.Numeric s) : Visible s := by
  intro c mem
  by_cases ascii : c.toNat < 0x80
  · exact Text.forall_ascii
      (p := fun c => c.isDigit = true ∨ c ∈ ['-', '+', '.', 'e'] → 0x20 ≤ c.toNat)
      (by decide +kernel) ascii (h c mem)
  · omega

theorem visible_writeFloat (x : Decimal.Binary64) : Visible (writeFloat x) := by
  cases x with
  | nan =>
    show Visible "NaN".toList
    decide
  | infinite negative =>
    cases negative with
    | false =>
      show Visible "Infinity".toList
      decide
    | true =>
      show Visible "-Infinity".toList
      decide
  | finite negative mantissa exponent =>
    exact visible_numeric (Decimal.numeric_toChars negative mantissa exponent)

theorem visible_writeString (ascii : Bool) (t : String) : Visible (writeString ascii t) := by
  obtain ⟨q, quoted, eq⟩ := Quoted.writeString ascii t
  rw [eq]
  refine .cons (by decide) fun c mem => ?_
  exact Nat.le_of_not_lt fun control => quoted.control_not_mem control mem

variable (marks : Visible style.comma ∧ Visible style.colon)

include marks

mutual

/-- A written value holds no control character. -/
theorem visible_writeChars : ∀ v : Json, Visible (writeChars style v)
  | .null => (by decide : Visible "null".toList)
  | .bool true => (by decide : Visible "true".toList)
  | .bool false => (by decide : Visible "false".toList)
  | .int n => visible_numeric (Decimal.numeric_intText n)
  | .float x => visible_writeFloat x
  | .string s => visible_writeString style.ascii s
  | .array [] => (by decide : Visible ['[', ']'])
  | .array (v :: rest) => by
    have items := (visible_writeChars v).append (visible_writeItems rest)
    exact (Visible.cons (by decide) items).append (by decide)
  | .object [] => (by decide : Visible ['{', '}'])
  | .object ((name, v) :: rest) => by
    have label := (visible_writeString style.ascii name).append marks.2
    have first := label.append (visible_writeChars v)
    have members := first.append (visible_writeMembers rest)
    exact (Visible.cons (by decide) members).append (by decide)

theorem visible_writeItems : ∀ vs : List Json, Visible (writeItems style vs)
  | [] => (by decide : Visible [])
  | v :: rest => (marks.1.append (visible_writeChars v)).append (visible_writeItems rest)

theorem visible_writeMembers : ∀ ms : List (String × Json), Visible (writeMembers style ms)
  | [] => (by decide : Visible [])
  | (name, v) :: rest => by
    have label := (marks.1.append (visible_writeString style.ascii name)).append marks.2
    exact (label.append (visible_writeChars v)).append (visible_writeMembers rest)

end

end Visible

/-- A text that is written with blanks behind its marks holds no control character. -/
theorem visible_write_spaced (v : Json) : Visible (write .spaced v).toList := by
  rw [write, String.toList_ofList]
  exact visible_writeChars (by decide) v

end LedgerGateway.Json
