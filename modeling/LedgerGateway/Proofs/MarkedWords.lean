import LedgerGateway.Log.Highlight
import Mathlib.Data.List.TakeWhile

/-!
# Words that a console marks

Most kinds of marked parts are words of a form: a hexadecimal number, an address, the name of a
method or of a level. A word is a run of word characters that cannot be made longer, so the search,
which goes on behind each part that it found, misses none of them: what it found ends where its word
ends, and no other word begins in between. The words are those of the line that the console keeps,
which drops a few control characters before it looks at anything.

* `WordAt` — the words of a text and where they begin.
* `Shapes` — a reader takes the words of a form; `mem_scan_iff` is what its search finds.
* `scan_ordered` — the parts of one kind follow one another, whatever the rule is.
* `marked_words_exact` — the words that are marked.
-/

namespace LedgerGateway.Log

open Text (isWord forall_ascii)

/-! ## Words -/

/-- No word goes on there: the text ends, or another character follows. -/
def Apart (c : Option Char) : Prop := ∀ d ∈ c, ¬ isWord d

/-- A word stands at a place of a text: word characters, and none on either side of them. -/
structure WordAt (s : List Char) (start : Nat) (w : List Char) : Prop where
  nonempty : w ≠ []
  inside : ∀ c ∈ w, isWord c
  cut : ∃ front behind, s = front ++ (w ++ behind) ∧ front.length = start ∧
    Apart front.getLast? ∧ Apart behind.head?

theorem apart_iff {c : Option Char} : Apart c ↔ c.any isWord = false := by
  cases c <;> simp [Apart]

/-- A run of a class ends where another character follows. -/
theorem takeWhile_append_of_stop {p : Char → Bool} {run behind : List Char}
    (inside : ∀ c ∈ run, p c) (stop : ∀ c ∈ behind.head?, ¬ p c) :
    (run ++ behind).takeWhile p = run := by
  rw [List.takeWhile_append_of_pos inside]
  cases behind with
  | nil => rw [List.takeWhile_nil, List.append_nil]
  | cons c rest => rw [List.takeWhile_cons_of_neg (stop c rfl), List.append_nil]

/-- A run of some word characters ends where the word ends. -/
theorem takeWhile_run {p : Char → Bool} {run behind : List Char} (word : ∀ c, p c → isWord c)
    (inside : ∀ c ∈ run, p c) (right : Apart behind.head?) : (run ++ behind).takeWhile p = run :=
  takeWhile_append_of_stop inside fun c mem own => right c mem (word c own)

namespace Highlight

/-! ## Readers of words -/

/-- A reader takes the words of a form, and nothing else, from the front of a text. -/
structure Shapes (shape : List Char → Option Nat) (form : List Char → Prop) : Prop where
  nonempty : ∀ w, form w → w ≠ []
  inside : ∀ w, form w → ∀ c ∈ w, isWord c
  complete : ∀ w behind, form w → Apart behind.head? → shape (w ++ behind) = some w.length
  sound : ∀ s n, shape s = some n → ∃ w behind, s = w ++ behind ∧ w.length = n ∧ form w

/-- A word of a form in a text that stands behind a character. -/
structure Found (form : List Char → Prop) (before : Option Char) (s front w behind : List Char) :
    Prop where
  text : s = front ++ (w ++ behind)
  own : form w
  left : Apart (front.getLast?.or before)
  right : Apart behind.head?

section Words

variable {shape : List Char → Option Nat} {form : List Char → Prop} {before : Option Char}
  {s front w behind : List Char}

theorem wholeWord_eq_some_iff (shapes : Shapes shape form) {hit : Hit} :
    wholeWord shape before s = some hit ↔
      ∃ w behind, Found form before s [] w behind ∧ hit = ⟨0, w.length⟩ := by
  constructor
  · intro found
    rw [wholeWord] at found
    split at found
    · cases found
    next left =>
    split at found
    · cases found
    next n read =>
    split at found
    · cases found
    next right =>
    obtain ⟨w, behind, rfl, rfl, own⟩ := shapes.sound _ _ read
    rw [List.drop_left] at right
    refine ⟨w, behind, ⟨rfl, own, ?_, ?_⟩, (Option.some.inj found).symm⟩
    · rw [List.getLast?_nil, Option.none_or, apart_iff]
      simpa using left
    · rw [apart_iff]
      simpa [wordFirst] using right
  · rintro ⟨w, behind, ⟨rfl, own, left, right⟩, rfl⟩
    rw [List.getLast?_nil, Option.none_or, apart_iff] at left
    have ends : wordFirst behind = false := apart_iff.1 right
    rw [List.nil_append, wholeWord, left, if_neg Bool.false_ne_true,
      shapes.complete w behind own right]
    simp only [List.drop_left, ends]
    rfl

theorem Found.wordAt (shapes : Shapes shape form) (found : Found form none s front w behind) :
    WordAt s front.length w where
  nonempty := shapes.nonempty w found.own
  inside := shapes.inside w found.own
  cut := ⟨front, behind, found.text, rfl, by simpa using found.left, found.right⟩

/-- Behind a character that begins no word of the form the same words are found. -/
theorem found_cons_iff {c : Char} (none : ∀ w behind, ¬ Found form before (c :: s) [] w behind) :
    Found form before (c :: s) front w behind ↔
      ∃ front', front = c :: front' ∧ Found form (some c) s front' w behind := by
  constructor
  · intro found
    cases front with
    | nil => exact absurd found (none w behind)
    | cons d front' =>
      obtain ⟨rfl, text⟩ := List.cons.inj found.text
      refine ⟨front', rfl, text, found.own, ?_, found.right⟩
      have left := found.left
      rw [List.getLast?_cons] at left
      cases last : front'.getLast? <;> simpa [last] using left
  · rintro ⟨front', rfl, found⟩
    refine ⟨congrArg (List.cons c) found.text, found.own, ?_, found.right⟩
    have left := found.left
    rw [List.getLast?_cons]
    cases last : front'.getLast? <;> simpa [last] using left

/-- Where a word stands at the front, the next one is found behind it. -/
theorem found_append_iff (shapes : Shapes shape form) {word rest : List Char}
    (first : Found form before (word ++ rest) [] word rest) :
    Found form before (word ++ rest) front w behind ↔
      (front = [] ∧ w = word) ∧ behind = rest ∨
        ∃ front', front = word ++ front' ∧
          Found form (word.getLast?.or before) rest front' w behind := by
  have letters := shapes.inside word first.own
  constructor
  · intro found
    rcases List.append_eq_append_iff.1 found.text with ⟨more, rfl, text⟩ | ⟨more, eq, text⟩
    · refine .inr ⟨more, rfl, text, found.own, ?_, found.right⟩
      have left := found.left
      rwa [List.getLast?_append, Option.or_assoc] at left
    · cases front with
      | nil =>
        left
        have one := takeWhile_run (fun _ => id) letters first.right
        have other := takeWhile_run (fun _ => id) (shapes.inside w found.own) found.right
        have same : word ++ rest = w ++ behind := found.text
        rw [same] at one
        obtain rfl : w = word := other.symm.trans one
        exact ⟨⟨rfl, rfl⟩, (List.append_cancel_left same).symm⟩
      | cons c front' =>
        -- The word would begin behind a character of the first one.
        have last : (c :: front').getLast? = some ((c :: front').getLast (by simp)) :=
          List.getLast?_eq_some_getLast (by simp)
        have mem : (c :: front').getLast (by simp) ∈ word := by
          rw [eq]
          exact List.mem_append_left _ (List.getLast_mem _)
        have left := found.left
        rw [last, Option.some_or] at left
        exact absurd (letters _ mem) (left _ rfl)
  · rintro (⟨⟨rfl, rfl⟩, rfl⟩ | ⟨front', rfl, found⟩)
    · exact first
    · refine ⟨by rw [found.text, List.append_assoc], found.own, ?_, found.right⟩
      rw [List.getLast?_append, Option.or_assoc]
      exact found.left

end Words

/-! ## Searching -/

/-- The search goes on behind what it found. -/
theorem scan_covered (r : Rule) (u rest : List Char) (before : Option Char) (place : Nat) :
    scan r before u.length place (u ++ rest) =
      scan r (u.getLast?.or before) 0 (place + u.length) rest := by
  induction u generalizing before place with
  | nil => simp
  | cons c u ih =>
    rw [List.cons_append, List.length_cons, scan, ih, List.getLast?_cons]
    congr 1
    · cases u.getLast? <;> rfl
    · omega

/-- A part that is found at the front, and what is found behind it. -/
theorem scan_hit {r : Rule} {w rest : List Char} {before : Option Char} {lead length : Nat}
    (nonempty : w ≠ []) (covers : lead + length = w.length)
    (hit : r before (w ++ rest) = some ⟨lead, length⟩) (place : Nat) :
    scan r before 0 place (w ++ rest) = (place + lead, place + w.length) ::
      scan r (w.getLast?.or before) 0 (place + w.length) rest := by
  obtain ⟨c, u, rfl⟩ := List.exists_cons_of_ne_nil nonempty
  rw [List.length_cons] at covers ⊢
  have stop : place + lead + length = place + (u.length + 1) := by omega
  have left : lead + length - 1 = u.length := by omega
  rw [List.cons_append] at hit ⊢
  simp only [scan, hit]
  rw [stop, left, scan_covered, List.getLast?_cons]
  congr 2
  · cases u.getLast? <;> rfl
  · omega

/-- Where nothing is found, the search goes on one character further. -/
theorem scan_miss {r : Rule} {c : Char} {rest : List Char} {before : Option Char}
    (miss : r before (c :: rest) = none) (place : Nat) :
    scan r before 0 place (c :: rest) = scan r (some c) 0 (place + 1) rest := by
  simp only [scan, miss]

/-- What the search for words of a form finds: each of them, from its first character to the one
behind its last. -/
theorem mem_scan_iff {shape : List Char → Option Nat} {form : List Char → Prop}
    (shapes : Shapes shape form) {start stop : Nat} (s : List Char) (before : Option Char)
    (place : Nat) :
    (start, stop) ∈ scan (wholeWord shape) before 0 place s ↔
      ∃ front w behind, Found form before s front w behind ∧
        start = place + front.length ∧ stop = start + w.length := by
  -- Each step leaves a shorter text to be searched.
  induction size : s.length using Nat.strong_induction_on generalizing s before place with
  | _ n ih =>
  cases s with
  | nil =>
    refine iff_of_false (by simp [scan]) ?_
    rintro ⟨front, w, behind, found, -⟩
    have empty := found.text
    simp only [List.nil_eq, List.append_eq_nil_iff] at empty
    exact shapes.nonempty w found.own empty.2.1
  | cons c tail =>
    cases found : wholeWord shape before (c :: tail) with
    | none =>
      have none : ∀ w behind, ¬ Found form before (c :: tail) [] w behind := by
        intro w behind own
        have hit := (wholeWord_eq_some_iff shapes).2 ⟨w, behind, own, rfl⟩
        rw [found] at hit
        cases hit
      rw [scan_miss found, ih tail.length (by rw [← size]; exact Nat.lt_succ_self _) _ _ _ rfl]
      simp only [found_cons_iff none]
      constructor
      · rintro ⟨front, w, behind, own, rfl, rfl⟩
        refine ⟨c :: front, w, behind, ⟨front, rfl, own⟩, ?_, rfl⟩
        rw [List.length_cons]
        omega
      · rintro ⟨_, w, behind, ⟨front, rfl, own⟩, rfl, rfl⟩
        refine ⟨front, w, behind, own, ?_, rfl⟩
        rw [List.length_cons]
        omega
    | some hit =>
      obtain ⟨word, rest, first, rfl⟩ := (wholeWord_eq_some_iff shapes).1 found
      have text : c :: tail = word ++ rest := first.text
      have nonempty := shapes.nonempty word first.own
      rw [text] at found first size ⊢
      have shorter : rest.length < n := by
        have := List.length_pos_iff.2 nonempty
        rw [List.length_append] at size
        omega
      rw [scan_hit nonempty (Nat.zero_add _) found, List.mem_cons, ih _ shorter _ _ _ rfl]
      simp only [found_append_iff shapes first, Prod.mk.injEq]
      constructor
      · rintro (⟨rfl, rfl⟩ | ⟨front, w, behind, own, rfl, rfl⟩)
        · exact ⟨[], word, rest, .inl ⟨⟨rfl, rfl⟩, rfl⟩, rfl, rfl⟩
        · refine ⟨word ++ front, w, behind, .inr ⟨front, rfl, own⟩, ?_, rfl⟩
          rw [List.length_append]
          omega
      · rintro ⟨_, w, behind, ⟨⟨rfl, rfl⟩, rfl⟩ | ⟨front, rfl, own⟩, rfl, rfl⟩
        · exact .inl ⟨rfl, rfl⟩
        · refine .inr ⟨front, w, behind, own, ?_, rfl⟩
          rw [List.length_append]
          omega

/-- The parts that one search finds follow one another. -/
theorem scan_ordered (r : Rule) (s : List Char) (before : Option Char) (covered place : Nat) :
    (scan r before covered place s).Pairwise (fun a b => a.2 ≤ b.1) ∧
      ∀ a ∈ scan r before covered place s, place + covered ≤ a.1 ∧ a.1 ≤ a.2 := by
  induction s generalizing before covered place with
  | nil => simp [scan]
  | cons c rest ih =>
    cases covered with
    | succ n =>
      -- The character belongs to a part that was found before.
      obtain ⟨ordered, behind⟩ := ih (some c) n (place + 1)
      rw [scan]
      refine ⟨ordered, fun a mem => ?_⟩
      have := behind a mem
      omega
    | zero =>
      cases found : r before (c :: rest) with
      | none =>
        obtain ⟨ordered, behind⟩ := ih (some c) 0 (place + 1)
        rw [scan_miss found]
        refine ⟨ordered, fun a mem => ?_⟩
        have := behind a mem
        omega
      | some hit =>
        obtain ⟨ordered, behind⟩ := ih (some c) (hit.lead + hit.length - 1) (place + 1)
        simp only [scan, found, List.pairwise_cons, List.forall_mem_cons]
        refine ⟨⟨fun a mem => ?_, ordered⟩, ?_, fun a mem => ?_⟩
        · have := behind a mem
          omega
        · omega
        · have := behind a mem
          omega

/-! ## The forms -/

/-- The digits of a hexadecimal number, in either case. -/
def hexDigits : List Char := "0123456789abcdefABCDEF".toList

/-- The word is of the form that a kind marks. -/
inductive Form : Mark → List Char → Prop where
  | hex {ds : List Char} : ds ≠ [] → (∀ d ∈ ds, d ∈ hexDigits) → Form .hex ('0' :: 'x' :: ds)
  | address {ds : List Char} : ds.length = 40 → (∀ d ∈ ds, d ∈ hexDigits) →
      Form .address ('0' :: 'x' :: ds)
  | method {family : String} {name : List Char} : family ∈ ["eth_", "net_", "web3_"] →
      name ≠ [] → (∀ c ∈ name, c.isAlpha) → Form .method (family.toList ++ name)
  | critical : Form .levelCritical "CRITICAL".toList
  | debug : Form .levelDebug "DEBUG".toList
  | error : Form .levelError "ERROR".toList
  | info : Form .levelInfo "INFO".toList
  | warning : Form .levelWarning "WARNING".toList

/-- The kinds that mark words. -/
def wordMarks : List Mark :=
  [.hex, .address, .method, .levelCritical, .levelDebug, .levelError, .levelInfo, .levelWarning]

theorem isDigit_iff {c : Char} : Hex.isDigit c = true ↔ c ∈ hexDigits := by
  by_cases ascii : c.toNat < 0x80
  · exact forall_ascii (p := fun c => Hex.isDigit c = true ↔ c ∈ hexDigits) (by decide +kernel)
      ascii
  · have low : ∀ d ∈ hexDigits, d.toNat < 0x80 := by decide
    refine iff_of_false ?_ fun mem => ascii (low c mem)
    have value : Hex.digitValue? c = none := by
      simp only [Hex.digitValue?]
      split_ifs <;> first | omega | rfl
    simp [Hex.isDigit, value]

theorem isWord_of_isDigit {c : Char} (h : Hex.isDigit c = true) : isWord c = true := by
  have all : ∀ d ∈ hexDigits, isWord d = true := by decide
  exact all c (isDigit_iff.1 h)

theorem isWord_of_isAlpha {c : Char} (h : c.isAlpha = true) : isWord c = true := by
  have ascii : c.toNat < 0x80 := by
    rcases Bool.or_eq_true_iff.1 h with upper | lower
    · have last : c.val ≤ 'Z'.val := (of_decide_eq_true upper).2
      exact Nat.lt_of_le_of_lt (UInt32.le_iff_toNat_le.1 last) (by decide)
    · have last : c.val ≤ 'z'.val := of_decide_eq_true (Bool.and_eq_true_iff.1 lower).2
      exact Nat.lt_of_le_of_lt (UInt32.le_iff_toNat_le.1 last) (by decide)
  exact forall_ascii (p := fun c => c.isAlpha = true → isWord c = true) (by decide +kernel)
    ascii h

theorem shapes_literal {word : List Char} {form : List Char → Prop}
    (only : ∀ w, form w ↔ w = word) (nonempty : word ≠ []) (inside : ∀ c ∈ word, isWord c) :
    Shapes (literal word) form where
  nonempty := by
    intro w own
    rwa [(only w).1 own]
  inside := by
    intro w own
    rwa [(only w).1 own]
  complete := by
    intro w behind own _
    obtain rfl := (only w).1 own
    exact if_pos (List.isPrefixOf_iff_prefix.2 (List.prefix_append w behind))
  sound := by
    intro s n read
    unfold literal at read
    split at read
    next starts =>
      obtain ⟨behind, rfl⟩ := List.isPrefixOf_iff_prefix.1 starts
      exact ⟨word, behind, rfl, Option.some.inj read, (only word).2 rfl⟩
    · cases read

/-- A word with the mark of a number in front is a word if it is made of digits. -/
theorem isWord_of_number {ds : List Char} (digits : ∀ d ∈ ds, d ∈ hexDigits) :
    ∀ c ∈ '0' :: 'x' :: ds, isWord c := by
  simp only [List.forall_mem_cons]
  exact ⟨by decide, by decide, fun d mem => isWord_of_isDigit (isDigit_iff.2 (digits d mem))⟩

theorem shapes_hexNumber : Shapes hexNumber (Form .hex) where
  nonempty := by
    rintro _ (_ | _)
    simp
  inside := by
    rintro _ (⟨-, digits⟩ | _)
    exact isWord_of_number digits
  complete := by
    rintro _ behind (@⟨ds, some_, digits⟩ | _) right
    have run : (ds ++ behind).takeWhile Hex.isDigit = ds :=
      takeWhile_run (fun _ => isWord_of_isDigit) (fun d mem => isDigit_iff.2 (digits d mem)) right
    simp only [List.cons_append, hexNumber, run]
    split
    · next empty => exact absurd (List.length_eq_zero_iff.1 empty) some_
    · rfl
  sound := by
    intro s n read
    unfold hexNumber at read
    split at read
    next rest =>
      split at read
      · cases read
      next some_ =>
        refine ⟨'0' :: 'x' :: rest.takeWhile Hex.isDigit, rest.dropWhile Hex.isDigit, ?_,
          Option.some.inj read, .hex ?_ ?_⟩
        · rw [List.cons_append, List.cons_append, List.takeWhile_append_dropWhile]
        · intro empty
          exact some_ (List.length_eq_zero_iff.2 empty)
        · intro d mem
          exact isDigit_iff.1 (List.mem_takeWhile_imp mem)
    · cases read

theorem shapes_addressNumber : Shapes addressNumber (Form .address) where
  nonempty := by
    rintro _ (_ | _)
    simp
  inside := by
    rintro _ (_ | ⟨-, digits⟩)
    exact isWord_of_number digits
  complete := by
    rintro _ behind (_ | @⟨ds, length, digits⟩) -
    have count : ds.length = addressDigits := length
    have first : (ds ++ behind).take addressDigits = ds := by rw [← count, List.take_left]
    have all : ds.all Hex.isDigit = true := by
      rw [List.all_eq_true]
      exact fun d mem => isDigit_iff.2 (digits d mem)
    simp only [List.cons_append, addressNumber, first, all, count, and_self, if_true,
      List.length_cons]
  sound := by
    intro s n read
    unfold addressNumber at read
    split at read
    next rest =>
      dsimp only at read
      split at read
      next own =>
        obtain ⟨length, all⟩ := own
        refine ⟨'0' :: 'x' :: rest.take addressDigits, rest.drop addressDigits, ?_, ?_,
          .address length ?_⟩
        · rw [List.cons_append, List.cons_append, List.take_append_drop]
        · rw [List.length_cons, List.length_cons, length]
          exact Option.some.inj read
        · intro d mem
          exact isDigit_iff.1 (List.all_eq_true.1 all d mem)
      · cases read
    · cases read

/-- The names of the families are told apart by their first letter. -/
theorem find?_families {family : String} (known : family ∈ ["eth_", "net_", "web3_"])
    (rest : List Char) :
    families.find? (fun own => own.isPrefixOf (family.toList ++ rest)) = some family.toList := by
  simp only [List.mem_cons, List.not_mem_nil, or_false] at known
  rcases known with rfl | rfl | rfl <;> rfl

theorem shapes_methodName : Shapes methodName (Form .method) where
  nonempty := by
    rintro _ (_ | _ | ⟨-, some_, -⟩)
    simp [some_]
  inside := by
    rintro _ (_ | _ | ⟨known, -, letters⟩)
    rw [List.forall_mem_append]
    refine ⟨?_, fun c mem => isWord_of_isAlpha (letters c mem)⟩
    have all : ∀ family ∈ ["eth_", "net_", "web3_"], ∀ c ∈ family.toList, isWord c := by decide
    exact all _ known
  complete := by
    rintro _ behind (_ | _ | @⟨family, name, known, some_, letters⟩) right
    have run : (name ++ behind).takeWhile Char.isAlpha = name :=
      takeWhile_run (fun _ => isWord_of_isAlpha) letters right
    rw [List.append_assoc, methodName, find?_families known]
    simp only [Option.bind_eq_bind, Option.bind_some, List.drop_left, run, List.length_append]
    split
    · next empty => exact absurd (List.length_eq_zero_iff.1 empty) some_
    · rfl
  sound := by
    intro s n read
    unfold methodName at read
    obtain ⟨family, found, read⟩ := Option.bind_eq_some_iff.1 read
    obtain ⟨own, known, rfl⟩ : ∃ own ∈ ["eth_", "net_", "web3_"], own.toList = family :=
      List.mem_map.1 (List.mem_of_find?_eq_some found)
    have starts := List.find?_some found
    obtain ⟨rest, rfl⟩ := List.isPrefixOf_iff_prefix.1 starts
    rw [List.drop_left] at read
    split at read
    · cases read
    next some_ =>
      refine ⟨own.toList ++ rest.takeWhile Char.isAlpha, rest.dropWhile Char.isAlpha, ?_, ?_,
        .method known ?_ ?_⟩
      · rw [List.append_assoc, List.takeWhile_append_dropWhile]
      · rw [List.length_append]
        exact Option.some.inj read
      · intro empty
        exact some_ (List.length_eq_zero_iff.2 empty)
      · intro c mem
        exact List.mem_takeWhile_imp mem

/-- The rule of each kind that marks words takes the words of its form. -/
theorem exists_shapes {mark : Mark} (known : mark ∈ wordMarks) :
    ∃ shape, rule mark = wholeWord shape ∧ Shapes shape (Form mark) := by
  simp only [wordMarks, List.mem_cons, List.not_mem_nil, or_false] at known
  rcases known with rfl | rfl | rfl | rfl | rfl | rfl | rfl | rfl
  · exact ⟨_, rfl, shapes_hexNumber⟩
  · exact ⟨_, rfl, shapes_addressNumber⟩
  · exact ⟨_, rfl, shapes_methodName⟩
  all_goals
    refine ⟨_, rfl, shapes_literal (fun w => ⟨?_, ?_⟩) (by decide) (by decide)⟩
    · rintro ⟨⟩
      rfl
    · rintro rfl
      constructor

/-! ## Spans -/

/-- The line that a console keeps, without the characters that it drops. -/
def shown (line : String) : List Char := line.toList.filter fun c => !isDropped c

/-- The spans of a kind, in the order in which they were found. -/
def spansOf (mark : Mark) (line : String) : List Span :=
  (spans line).filter fun span => span.mark = mark

theorem spansOf_eq (mark : Mark) (line : String) :
    spansOf mark line =
      (scan (rule mark) none 0 0 (shown line)).map fun (start, stop) => ⟨start, stop, mark⟩ := by
  -- Of the spans of one kind all are kept or none.
  have one (other : Mark) (found : List (Nat × Nat)) :
      (found.map fun p => (⟨p.1, p.2, other⟩ : Span)).filter (fun span => span.mark = mark) =
        if other = mark then found.map fun p => ⟨p.1, p.2, mark⟩ else [] := by
    split
    · next same =>
      rw [same, List.filter_eq_self]
      intro span mem
      obtain ⟨p, -, rfl⟩ := List.mem_map.1 mem
      exact decide_eq_true rfl
    · next differ =>
      rw [List.filter_eq_nil_iff]
      intro span mem
      obtain ⟨p, -, rfl⟩ := List.mem_map.1 mem
      simpa using differ
  rw [spansOf, spans, List.filter_flatMap]
  simp only [one]
  cases mark <;> simp [Mark.all, shown]

theorem mem_spansOf {mark : Mark} {line : String} {start stop : Nat} :
    ⟨start, stop, mark⟩ ∈ spansOf mark line ↔ (⟨start, stop, mark⟩ : Span) ∈ spans line := by
  simp [spansOf]

/-- What a line that keeps all its characters is shown as. -/
theorem shown_of_not_isDropped {line : String} (kept : ∀ c ∈ line.toList, ¬ isDropped c) :
    shown line = line.toList := by
  rw [shown, List.filter_eq_self]
  intro c mem
  simpa using kept c mem

/-- The spans of a kind are those of the words of its form in a text, one behind the other. -/
structure MarksWords (text : List Char) (line : String) (mark : Mark) : Prop where
  exact : ∀ start stop, ⟨start, stop, mark⟩ ∈ spansOf mark line ↔
    ∃ w, WordAt text start w ∧ stop = start + w.length ∧ Form mark w
  ordered : (spansOf mark line).Pairwise fun a b => a.stop ≤ b.start
  nonempty : ∀ a ∈ spansOf mark line, a.start < a.stop

theorem marksWords_shown (line : String) {mark : Mark} (known : mark ∈ wordMarks) :
    MarksWords (shown line) line mark := by
  obtain ⟨shape, own, shapes⟩ := exists_shapes known
  obtain ⟨ordered, -⟩ := scan_ordered (wholeWord shape) (shown line) none 0 0
  have exact (start stop : Nat) : (⟨start, stop, mark⟩ : Span) ∈ spansOf mark line ↔
      ∃ front w behind, Found (Form mark) none (shown line) front w behind ∧
        start = front.length ∧ stop = start + w.length := by
    have found : (start, stop) ∈ scan (wholeWord shape) none 0 0 (shown line) ↔ _ :=
      mem_scan_iff shapes (shown line) none 0
    simp only [Nat.zero_add] at found
    rw [spansOf_eq, own, ← found]
    simp
  refine ⟨fun start stop => ?_, ?_, ?_⟩
  · rw [exact]
    constructor
    · rintro ⟨front, w, behind, found, rfl, stop_eq⟩
      exact ⟨w, found.wordAt shapes, stop_eq, found.own⟩
    · rintro ⟨w, ⟨-, -, front, behind, text, rfl, left, right⟩, stop_eq, own⟩
      exact ⟨front, w, behind, ⟨text, own, by simpa using left, right⟩, rfl, stop_eq⟩
  · rw [spansOf_eq, own, List.pairwise_map]
    exact ordered
  · rintro ⟨start, stop, kind⟩ mem
    obtain rfl : kind = mark := by simpa using (List.mem_filter.1 mem).2
    obtain ⟨front, w, behind, found, -, rfl⟩ := (exact start stop).1 mem
    exact Nat.lt_add_of_pos_right (List.length_pos_iff.2 (shapes.nonempty w found.own))

theorem Form.hex_of_address {w : List Char} (h : Form .address w) : Form .hex w := by
  cases h with
  | address length digits =>
    refine .hex ?_ digits
    rintro rfl
    cases length

/-- **The marked words.** In the line that a console keeps, the spans of each kind are exactly the
words of its form, in their order and without overlap; an address is marked as a number too. A line
without the characters that are dropped is kept as it is. -/
theorem marked_words_exact (line : String) :
    (∀ mark ∈ wordMarks, MarksWords (shown line) line mark) ∧
      (∀ start stop, ⟨start, stop, .address⟩ ∈ spans line → ⟨start, stop, .hex⟩ ∈ spans line) ∧
      ((∀ c ∈ line.toList, ¬ isDropped c) → shown line = line.toList) := by
  refine ⟨fun mark known => marksWords_shown line known, ?_, shown_of_not_isDropped⟩
  intro start stop mem
  have words {mark : Mark} (known : mark ∈ wordMarks) :=
    (marksWords_shown line known).exact start stop
  have address := words (by decide : .address ∈ wordMarks)
  have hex := words (by decide : .hex ∈ wordMarks)
  obtain ⟨w, word, stop_eq, form⟩ := address.1 (mem_spansOf.2 mem)
  exact mem_spansOf.1 (hex.2 ⟨w, word, stop_eq, form.hex_of_address⟩)

/-- A line with the name of a method and an address. -/
def callLine : String := "eth_call(0xabababababababababababababababababababab)"

theorem marked_words_exact_call :
    .method ∈ wordMarks ∧ MarksWords (shown callLine) callLine .method ∧
      ⟨9, 51, .address⟩ ∈ spans callLine ∧ ⟨9, 51, .hex⟩ ∈ spans callLine ∧
      (∀ c ∈ callLine.toList, ¬ isDropped c) ∧ shown callLine = callLine.toList := by
  obtain ⟨words, both, kept⟩ := marked_words_exact callLine
  have address : ⟨9, 51, .address⟩ ∈ spans callLine := by decide +kernel
  have none : ∀ c ∈ callLine.toList, ¬ isDropped c := by decide +kernel
  exact ⟨by decide, words .method (by decide), address, both 9 51 address, none, kept none⟩

/-- Behind a bell the place of a word in the line that is kept is not its place in the text. -/
theorem not_marksWords_bell : ¬ MarksWords "\x07INFO".toList "\x07INFO" .levelInfo := by
  intro h
  have marked : ⟨0, 4, .levelInfo⟩ ∈ spansOf .levelInfo "\x07INFO" := by decide +kernel
  obtain ⟨w, ⟨nonempty, inside, front, behind, text, first, -⟩, -⟩ := (h.exact 0 4).1 marked
  obtain rfl := List.length_eq_zero_iff.1 first
  obtain ⟨c, rest, rfl⟩ := List.exists_cons_of_ne_nil nonempty
  obtain rfl : '\x07' = c := List.head_eq_of_cons_eq text
  exact absurd (inside _ List.mem_cons_self) (by decide)

end Highlight

end LedgerGateway.Log
