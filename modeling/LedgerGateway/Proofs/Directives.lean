import LedgerGateway.Proofs.WrittenValues

/-!
# Directives of a template

Behind its percent sign a directive begins with a key or with none; flags, a width, a precision and
a letter follow. The values are those of a table: the one of the key, or the whole table for a
directive without a key, unless another one came before. An asterisk would have to take a value of
its own, and there never are two. So a directive that takes its value has no asterisk, and the text
alone tells what it asks for.

* `Spells` — what a text asks for; `Spells.ask_eq`.
* `Starred` — asterisks that take an integer that is too large; `Starred.ask_eq`.
* `ask_cases` — what is read of a directive.
-/

namespace LedgerGateway.Log.Template

/-! ## The parts of a directive -/

/-- The text begins with a key, or it has none. -/
inductive KeyPart : List Char → Option String → List Char → Prop where
  | key {cs key rest : List Char} : readKey 0 [] cs = some (key, rest) →
      KeyPart ('(' :: cs) (some (String.ofList key)) rest
  | none {cs : List Char} : cs.head? ≠ some '(' → KeyPart cs none cs

/-- The text begins with a width, or it has none; no value is taken for it. -/
def WidthPart (l : Layout) (cs : List Char) (l' : Layout) (rest : List Char) : Prop :=
  ∀ s, readWidth l s cs = .ok (l', s, rest)

/-- The text begins with a precision, or it has none; no value is taken for it. -/
def PrecisionPart (l : Layout) (cs : List Char) (l' : Layout) (rest : List Char) : Prop :=
  ∀ s, readPrecision l s cs = .ok (l', s, rest)

/-- The text begins with a key, flags and a width. -/
inductive Front : List Char → Option String → Layout → List Char → Prop where
  | parts {cs behindKey rest : List Char} {key : Option String} {l : Layout} :
      KeyPart cs key behindKey →
      WidthPart (readFlags .plain behindKey).1 (readFlags .plain behindKey).2 l rest →
      Front cs key l rest

/-- What a directive asks for. -/
structure Directive where
  key : Option String
  layout : Layout
  letter : Char

/-- The text is a directive and a rest. -/
inductive Spells : List Char → Directive → List Char → Prop where
  | parts {cs behindWidth behindPrecision rest : List Char} {key : Option String} {l l' : Layout}
      {letter : Char} :
      Front cs key l behindWidth → PrecisionPart l behindWidth l' behindPrecision →
      skipSize behindPrecision = letter :: rest → Spells cs ⟨key, l', letter⟩ rest

/-! ## Values for a directive -/

namespace Supply

/-- The values are those of a table, and at most one of them is at hand. -/
structure Keyed (s : Supply) : Prop where
  table : s.table.isSome
  few : s.values.length ≤ 1

/-- The value of a key, or the one at hand. -/
def Holds (s : Supply) : Option String → Datum → Prop
  | some key, v => ∃ entries, s.table = some entries ∧ entries.lookup key = some v
  | none, v => s.values = [v]

/-- No value is at hand any more. -/
def spent (s : Supply) : Supply := { s with values := [] }

theorem ofTable_keyed (entries : List (String × Datum)) : (ofTable entries).Keyed :=
  ⟨rfl, Nat.le_refl 1⟩

theorem Keyed.spent {s : Supply} (keyed : s.Keyed) : s.spent.Keyed := ⟨keyed.table, Nat.zero_le 1⟩

/-- One value is at hand. -/
def hand (s : Supply) (v : Datum) : Supply := { s with values := [v] }

end Supply

/-! ## Reading a directive -/

/-- What a directive takes, and what is left behind it. -/
structure Demand where
  value : Datum
  layout : Layout
  letter : Char
  supply : Supply
  rest : List Char

/-- Takes the value of a directive whose precision is read. -/
def askBehind : Layout × Supply × List Char → Except Fault Demand
  | (l, s, cs) =>
    match skipSize cs with
    | [] => .error .incomplete
    | letter :: rest => s.take.map fun (v, s) => ⟨v, l, letter, s, rest⟩

/-- Reads a directive whose key is read, and takes its value. -/
def askFor : Supply × List Char → Except Fault Demand
  | (s, cs) =>
    (readWidth (readFlags .plain cs).1 s (readFlags .plain cs).2).bind fun (l, s, cs) =>
      (readPrecision l s cs).bind askBehind

/-- Reads a directive and takes its value. -/
def ask (s : Supply) (cs : List Char) : Except Fault Demand := (chooseKey s cs).bind askFor

/-! ## What is read -/

/-- What is wrong is wrong with the template. -/
def Blamed {α : Type} (r : Except Fault α) : Prop :=
  ∃ fault, r = .error fault ∧ fault.family.isOfTemplate

theorem Blamed.bind {α β : Type} {r : Except Fault α} {f : α → Except Fault β} (h : Blamed r) :
    Blamed (r.bind f) := by
  obtain ⟨fault, rfl, own⟩ := h
  exact ⟨fault, rfl, own⟩

theorem Blamed.map {α β : Type} {r : Except Fault α} {f : α → β} (h : Blamed r) :
    Blamed (r.map f) := by
  obtain ⟨fault, rfl, own⟩ := h
  exact ⟨fault, rfl, own⟩

section Parts

variable {s : Supply} {cs rest : List Char} {key : Option String} {l l' : Layout} {v : Datum}

theorem KeyPart.chooseKey_eq (part : KeyPart cs key rest) (holds : s.Holds key v) :
    chooseKey s cs = .ok (s.hand v, rest) := by
  cases part with
  | key read =>
    obtain ⟨entries, table, found⟩ := holds
    simp only [chooseKey, read, Supply.select, table, found, Supply.hand]
    rfl
  | none other =>
    have same : s.hand v = s := by
      rw [Supply.hand, ← (holds : s.values = [v])]
    rw [same]
    unfold chooseKey
    split
    · simp at other
    · rfl

section Numbers

variable {n : Nat}

theorem readWidth_of_none (noStar : cs.head? ≠ some '*') (number : readNumber cs = none)
    (l : Layout) (s : Supply) : readWidth l s cs = .ok (l, s, cs) := by
  unfold readWidth
  split
  · exact absurd rfl noStar
  · rw [number]

end Numbers

theorem take_hand (s : Supply) (v : Datum) : (s.hand v).take = .ok (v, s.spent) := rfl

/-- The integer at hand is taken for the width. -/
theorem readWidth_star {n : Int} (integer : asInteger? v = some n) (l : Layout) (s : Supply)
    (rest : List Char) :
    readWidth l (s.hand v) ('*' :: rest) =
      if n < Int64.minValue.toInt ∨ Int64.maxValue.toInt < n then .error .widthRange
      else .ok ({ l with width := n.natAbs, left := l.left || n < 0 }, s.spent, rest) := by
  simp only [readWidth, takeStar, take_hand, integer, bind, Except.bind]

theorem readPrecision_star {n : Int} (integer : asInteger? v = some n) (l : Layout) (s : Supply)
    (rest : List Char) :
    readPrecision l (s.hand v) ('.' :: '*' :: rest) =
      if n < Int32.minValue.toInt ∨ Int32.maxValue.toInt < n then .error .precisionRange
      else .ok ({ l with precision := some n.toNat }, s.spent, rest) := by
  simp only [readPrecision, takeStar, take_hand, integer, bind, Except.bind]

theorem Front.ask_eq (front : Front cs key l rest) (holds : s.Holds key v) :
    ask s cs = (readPrecision l (s.hand v) rest).bind askBehind := by
  cases front with
  | parts part width =>
    rw [ask, part.chooseKey_eq holds]
    simp only [askFor, width (s.hand v), Except.bind]

/-- An asterisk takes an integer that is too large for it. -/
inductive Starred (s : Supply) (cs : List Char) : Fault → Prop where
  | width {key : Option String} {behind rest : List Char} {v : Datum} {n : Int} :
      KeyPart cs key behind → (readFlags .plain behind).2 = '*' :: rest → s.Holds key v →
      asInteger? v = some n → (n < Int64.minValue.toInt ∨ Int64.maxValue.toInt < n) →
      Starred s cs .widthRange
  | precision {key : Option String} {l : Layout} {rest : List Char} {v : Datum} {n : Int} :
      Front cs key l ('.' :: '*' :: rest) → s.Holds key v → asInteger? v = some n →
      (n < Int32.minValue.toInt ∨ Int32.maxValue.toInt < n) → Starred s cs .precisionRange

theorem Starred.ask_eq {fault : Fault} (h : Starred s cs fault) : ask s cs = .error fault := by
  cases h with
  | width part star holds integer range =>
    rw [ask, part.chooseKey_eq holds]
    simp only [Except.bind, askFor, star, readWidth_star integer, if_pos range]
  | precision front holds integer range =>
    rw [front.ask_eq holds, readPrecision_star integer, if_pos range]
    rfl

/-- A directive takes the value of its key, or the one at hand. -/
theorem Spells.ask_eq {d : Directive} (spells : Spells cs d rest) (holds : s.Holds d.key v) :
    ask s cs = .ok ⟨v, d.layout, d.letter, s.spent, rest⟩ := by
  cases spells with
  | parts front precision letter =>
    rw [front.ask_eq holds, precision (s.hand v)]
    simp only [Except.bind, askBehind, letter, take_hand, Except.map]

end Parts

/-! ## Lengths -/

theorem readKey_length {depth : Nat} {acc cs key rest : List Char}
    (read : readKey depth acc cs = some (key, rest)) : rest.length < cs.length := by
  induction cs generalizing depth acc with
  | nil => cases read
  | cons c behind ih =>
    unfold readKey at read
    split at read
    · cases read
    · next same =>
      obtain ⟨rfl, rfl⟩ := List.cons.inj same
      split at read
      · cases read
        exact Nat.lt_succ_self _
      · exact Nat.lt_succ_of_lt (ih read)
    · next same =>
      obtain ⟨rfl, rfl⟩ := List.cons.inj same
      exact Nat.lt_succ_of_lt (ih read)
    · next same =>
      obtain ⟨rfl, rfl⟩ := List.cons.inj same
      exact Nat.lt_succ_of_lt (ih read)

theorem readFlags_length (l : Layout) (cs : List Char) :
    (readFlags l cs).2.length ≤ cs.length := by
  induction cs generalizing l with
  | nil => exact Nat.le_refl _
  | cons c rest ih =>
    unfold readFlags
    split
    case h_6 => exact Nat.le_refl _
    all_goals
      next same =>
        obtain ⟨rfl, rfl⟩ := List.cons.inj same
        exact Nat.le_succ_of_le (ih _)

theorem readNumber_length {n : Nat} {cs rest : List Char} (read : readNumber cs = some (n, rest)) :
    rest.length ≤ cs.length := by
  unfold readNumber at read
  dsimp only at read
  split at read
  · cases read
  · obtain ⟨-, rfl⟩ := Prod.mk.inj (Option.some.inj read)
    rw [List.length_drop]
    omega

theorem WidthPart.length_le {l l' : Layout} {cs rest : List Char} (part : WidthPart l cs l' rest) :
    rest.length ≤ cs.length := by
  have read := part (.ofList [])
  unfold readWidth at read
  split at read
  · cases read
  split at read
  · cases read
    exact Nat.le_refl _
  · next number =>
    split at read
    · cases read
    · cases read
      exact readNumber_length number

theorem PrecisionPart.length_le {l l' : Layout} {cs rest : List Char}
    (part : PrecisionPart l cs l' rest) : rest.length ≤ cs.length := by
  have read := part (.ofList [])
  unfold readPrecision at read
  split at read
  · cases read
  · split at read
    · cases read
      exact Nat.le_succ _
    · next number =>
      split at read
      · cases read
      · cases read
        exact Nat.le_succ_of_le (readNumber_length number)
  · cases read
    exact Nat.le_refl _

theorem KeyPart.length_le {cs rest : List Char} {key : Option String} (part : KeyPart cs key rest) :
    rest.length ≤ cs.length := by
  cases part with
  | key read => exact Nat.le_succ_of_le (Nat.le_of_lt (readKey_length read))
  | none => exact Nat.le_refl _

theorem Front.length_le {cs rest : List Char} {key : Option String} {l : Layout}
    (front : Front cs key l rest) : rest.length ≤ cs.length := by
  cases front with
  | parts part width =>
    exact (width.length_le.trans (readFlags_length _ _)).trans part.length_le

theorem skipSize_length (cs : List Char) : (skipSize cs).length ≤ cs.length := by
  unfold skipSize
  split
  · split
    · exact Nat.le_succ _
    · exact Nat.le_refl _
  · exact Nat.le_refl _

/-- A directive takes at least its letter. -/
theorem Spells.length_lt {cs rest : List Char} {d : Directive} (spells : Spells cs d rest) :
    rest.length < cs.length := by
  cases spells with
  | parts front precision own =>
    have shorter := (congrArg List.length own).symm.trans_le (skipSize_length _)
    exact (Nat.lt_of_succ_le shorter).trans_le (precision.length_le.trans front.length_le)

end LedgerGateway.Log.Template
