import LedgerGateway.Proofs.JsonCompleteness

/-!
# A JSON text spells one value

Two spellings in front of one text are the same, whatever limits and words they are made with. So a
text has one value at most, and where it ends is told by the text too. The proof is by induction on
one spelling, with one lemma for each thing that may come next: a mark, a name, a scalar.

* `Spelt.cut` — two spellings in front of one text spell the same and leave the same.
* `WholeText.unique` — a whole text has one value.
-/

namespace LedgerGateway.Json

/-! ## Marks and names -/

theorem Closing.cut {mark : Char} {z z' r r' : List Char} (solid : isGap mark = false)
    (h : Closing mark z) (h' : Closing mark z') (eq : z ++ r = z' ++ r') : r = r' := by
  have left := h.behindMark?_eq solid r
  rw [eq, h'.behindMark?_eq solid r'] at left
  exact (Option.some.inj left).symm

theorem Marked.cut {mark : Char} {m m' s s' : List Char} (solid : isGap mark = false)
    (h : Marked mark m) (h' : Marked mark m') (begins : Begins s) (begins' : Begins s')
    (eq : m ++ s = m' ++ s') : s = s' := by
  obtain ⟨t, found, skipped⟩ := h.behindMark?_eq solid begins
  obtain ⟨t', found', skipped'⟩ := h'.behindMark?_eq solid begins'
  rw [eq, found'] at found
  obtain rfl : t' = t := Option.some.inj found
  exact skipped.symm.trans skipped'

/-- A closing mark is not taken for another mark. -/
theorem Closing.ne_marked {mark other : Char} {z m r s : List Char} (solid : isGap mark = false)
    (solid' : isGap other = false) (ne : other ≠ mark) (h : Closing mark z)
    (h' : Marked other m) : z ++ r ≠ m ++ s := by
  intro eq
  have left := h.behindMark?_eq solid r
  rw [eq, h'.behindMark?_other solid' ne] at left
  exact absurd left (by simp)

theorem Quoted.cut {t t' q q' r r' : List Char} (h : Quoted t q) (h' : Quoted t' q')
    (eq : q ++ r = q' ++ r') : t = t' ∧ r = r' := by
  have left := readBody_of_quoted h [] [] r
  rw [eq, readBody_of_quoted h' [] [] r'] at left
  obtain ⟨same, rest⟩ := Prod.mk.inj (Except.ok.inj left)
  exact ⟨same.symm, rest.symm⟩

theorem Label.cut {name name' : String} {l l' s s' : List Char} (h : Label name l)
    (h' : Label name' l') (begins : Begins s) (begins' : Begins s') (eq : l ++ s = l' ++ s') :
    name = name' ∧ s = s' := by
  obtain ⟨quoted, marked⟩ := h
  obtain ⟨quoted', marked'⟩ := h'
  simp only [List.cons_append, List.append_assoc, List.cons.injEq, true_and] at eq
  obtain ⟨rfl, rest⟩ := quoted.cut quoted' eq
  exact ⟨rfl, marked.cut rfl marked' begins begins' rest⟩

theorem Begins.cut {g g' s s' : List Char} (gap : Gap g) (gap' : Gap g') (h : Begins s)
    (h' : Begins s') (eq : g ++ s = g' ++ s') : s = s' := by
  rw [← h.skipGap_eq gap, ← h'.skipGap_eq gap', eq]

/-- The mark that closes an array or an object is not taken for what begins in it. -/
theorem Closing.ne_begins {mark : Char} {z g s r r' : List Char} (ender : mark = ']' ∨ mark = '}')
    (h : Closing mark z) (gap : Gap g) (begins : Begins s) : z ++ r ≠ g ++ s ++ r' := by
  intro eq
  have solid : isGap mark = false := by
    obtain rfl | rfl := ender <;> rfl
  have found := h.behindMark?_eq solid r
  rw [eq, List.append_assoc, (begins.append r').no_closing ender gap] at found
  exact absurd found (by simp)

theorem tail_eq {c : Char} {x y r r' : List Char} (eq : c :: x ++ r = c :: y ++ r') :
    x ++ r = y ++ r' :=
  (List.cons.inj eq).2

/-! ## Scalars -/

/-- What neither is a string nor holds other values. -/
inductive Scalar (v : Json) (s : List Char) : Prop where
  | word : (s, v) ∈ words → Scalar v s
  | number {n : Numeral} : n.Spells s → n.number = v → Scalar v s

theorem Scalar.head {v : Json} {s : List Char} (h : Scalar v s) :
    ∃ c t, s = c :: t ∧ c ≠ '"' ∧ c ≠ '[' ∧ c ≠ '{' := by
  cases h with
  | word mem =>
    simp only [words, List.mem_cons, Prod.mk.injEq, List.not_mem_nil, or_false] at mem
    obtain ⟨rfl, -⟩ | ⟨rfl, -⟩ | ⟨rfl, -⟩ | ⟨rfl, -⟩ | ⟨rfl, -⟩ | ⟨rfl, -⟩ := mem <;>
      exact ⟨_, _, rfl, by decide⟩
  | number spells => exact numeral_head spells

/-- A scalar is told apart from what follows it, as no numeral goes on behind its end. -/
theorem Scalar.cut {v v' : Json} {s s' r r' : List Char} (h : Scalar v s) (h' : Scalar v' s')
    (ends : Numeral.Ends r) (ends' : Numeral.Ends r') (eq : s ++ r = s' ++ r') :
    v = v' ∧ r = r' := by
  cases h with
  | word mem =>
    have found := find?_word mem r
    cases h' with
    | word mem' =>
      rw [eq, find?_word mem' r'] at found
      obtain ⟨rfl, rfl⟩ := Prod.mk.inj (Option.some.inj found)
      exact ⟨rfl, List.append_cancel_left eq⟩
    | number spells' =>
      rw [eq, find?_numeral spells' r'] at found
      exact absurd found (by simp)
  | number spells value =>
    cases h' with
    | word mem' =>
      have found := find?_word mem' r'
      rw [← eq, find?_numeral spells r] at found
      exact absurd found (by simp)
    | number spells' value' =>
      have scanned := Numeral.scan_of_spells spells ends
      rw [eq, Numeral.scan_of_spells spells' ends'] at scanned
      obtain rfl := Option.some.inj scanned
      refine ⟨value.symm.trans value', (List.append_inj eq ?_).2⟩
      rw [spells.length_eq, spells'.length_eq]

/-! ## Values and their parts -/

variable {W W' : List (List Char × Json)} {digits digits' : Nat}

/-- How the spelling of a value begins tells its kind. -/
inductive Shape (W : List (List Char × Json)) (digits : Nat) (v : Json) : List Char → Prop where
  | scalar {s} : Scalar v s → Shape W digits v s
  | string {t q} : Quoted t q → v = .string (String.ofList t) → Shape W digits v ('"' :: q)
  | emptyArray {z} : Closing ']' z → v = .array [] → Shape W digits v ('[' :: z)
  | array {depth g vs s} : Gap g → Spelt W digits depth (.items vs) s → v = .array vs →
      Shape W digits v ('[' :: (g ++ s))
  | emptyObject {z} : Closing '}' z → v = .object [] → Shape W digits v ('{' :: z)
  | object {depth g ms s} : Gap g → Spelt W digits depth (.members ms) s →
      v = .object (Association.ofPairs ms) → Shape W digits v ('{' :: (g ++ s))

theorem Spelt.shape (known : ∀ w ∈ W, w ∈ words) {depth : Nat} {v : Json} {s : List Char}
    (h : Spelt W digits depth (.value v) s) : Shape W digits v s := by
  cases h with
  | word mem => exact .scalar (.word (known _ mem))
  | number spells => exact .scalar (.number spells rfl)
  | string quoted => exact .string quoted rfl
  | emptyArray closing => exact .emptyArray closing rfl
  | array gap spelt => exact .array gap spelt rfl
  | emptyObject closing => exact .emptyObject closing rfl
  | object gap spelt => exact .object gap spelt rfl

/-- Whatever is spelt in front of the same text is the same and leaves the same. -/
def Cuts (W : List (List Char × Json)) (digits : Nat) (s : List Char) : Node → Prop
  | .value v => ∀ v' s' r r', Shape W digits v' s' → Numeral.Ends r → Numeral.Ends r' →
      s ++ r = s' ++ r' → v = v' ∧ r = r'
  | .items vs => ∀ depth vs' s' r r', Spelt W digits depth (.items vs') s' →
      s ++ r = s' ++ r' → vs = vs' ∧ r = r'
  | .members ms => ∀ depth ms' s' r r', Spelt W digits depth (.members ms') s' →
      s ++ r = s' ++ r' → ms = ms' ∧ r = r'

theorem cuts_scalar {v : Json} {s : List Char} (h : Scalar v s) : Cuts W digits s (.value v) := by
  intro v' s' r r' shape ends ends' eq
  cases shape with
  | scalar h' => exact h.cut h' ends ends' eq
  | string | emptyArray | array | emptyObject | object =>
    obtain ⟨c, t, rfl, quote, bracket, brace⟩ := h.head
    obtain ⟨rfl, -⟩ := List.cons.inj eq
    contradiction

theorem cuts_string {t q : List Char} (h : Quoted t q) :
    Cuts W digits ('"' :: q) (.value (.string (String.ofList t))) := by
  intro v' s' r r' shape ends ends' eq
  cases shape with
  | scalar h' =>
    obtain ⟨c, t, rfl, quote, -⟩ := h'.head
    exact absurd (List.cons.inj eq).1.symm quote
  | string h' value =>
    obtain ⟨rfl, rest⟩ := h.cut h' (tail_eq eq)
    exact ⟨value.symm, rest⟩
  | emptyArray | array | emptyObject | object => exact absurd (List.cons.inj eq).1 (by decide)

theorem cuts_emptyArray {z : List Char} (known : ∀ w ∈ W, w ∈ words) (h : Closing ']' z) :
    Cuts W digits ('[' :: z) (.value (.array [])) := by
  intro v' s' r r' shape ends ends' eq
  cases shape with
  | scalar h' =>
    obtain ⟨c, t, rfl, -, bracket, -⟩ := h'.head
    exact absurd (List.cons.inj eq).1.symm bracket
  | emptyArray h' value => exact ⟨value.symm, h.cut rfl h' (tail_eq eq)⟩
  | array gap spelt =>
    exact absurd (tail_eq eq) (h.ne_begins (.inl rfl) gap (spelt.begins known))
  | string | emptyObject | object => exact absurd (List.cons.inj eq).1 (by decide)

theorem cuts_emptyObject {z : List Char} (known : ∀ w ∈ W, w ∈ words) (h : Closing '}' z) :
    Cuts W digits ('{' :: z) (.value (.object [])) := by
  intro v' s' r r' shape ends ends' eq
  cases shape with
  | scalar h' =>
    obtain ⟨c, t, rfl, -, -, brace⟩ := h'.head
    exact absurd (List.cons.inj eq).1.symm brace
  | emptyObject h' value => exact ⟨value.symm, h.cut rfl h' (tail_eq eq)⟩
  | object gap spelt =>
    exact absurd (tail_eq eq) (h.ne_begins (.inr rfl) gap (spelt.begins known))
  | string | emptyArray | array => exact absurd (List.cons.inj eq).1 (by decide)

theorem cuts_array {g s : List Char} {vs : List Json} (known : ∀ w ∈ W, w ∈ words) (gap : Gap g)
    (begins : Begins s) (inner : Cuts W digits s (.items vs)) :
    Cuts W digits ('[' :: (g ++ s)) (.value (.array vs)) := by
  intro v' s' r r' shape ends ends' eq
  cases shape with
  | scalar h' =>
    obtain ⟨c, t, rfl, -, bracket, -⟩ := h'.head
    exact absurd (List.cons.inj eq).1.symm bracket
  | emptyArray h' =>
    exact absurd (tail_eq eq).symm (h'.ne_begins (.inl rfl) gap begins)
  | array gap' spelt value =>
    -- Past the gaps both go on with their first items.
    have rest := tail_eq eq
    rw [List.append_assoc, List.append_assoc] at rest
    have same := Begins.cut gap gap' (begins.append r) ((spelt.begins known).append r') rest
    obtain ⟨rfl, left⟩ := inner _ _ _ _ _ spelt same
    exact ⟨value.symm, left⟩
  | string | emptyObject | object => exact absurd (List.cons.inj eq).1 (by decide)

theorem cuts_object {g s : List Char} {ms : List (String × Json)} (known : ∀ w ∈ W, w ∈ words)
    (gap : Gap g) (begins : Begins s) (inner : Cuts W digits s (.members ms)) :
    Cuts W digits ('{' :: (g ++ s)) (.value (.object (Association.ofPairs ms))) := by
  intro v' s' r r' shape ends ends' eq
  cases shape with
  | scalar h' =>
    obtain ⟨c, t, rfl, -, -, brace⟩ := h'.head
    exact absurd (List.cons.inj eq).1.symm brace
  | emptyObject h' =>
    exact absurd (tail_eq eq).symm (h'.ne_begins (.inr rfl) gap begins)
  | object gap' spelt value =>
    have rest := tail_eq eq
    rw [List.append_assoc, List.append_assoc] at rest
    have same := Begins.cut gap gap' (begins.append r) ((spelt.begins known).append r') rest
    obtain ⟨rfl, left⟩ := inner _ _ _ _ _ spelt same
    exact ⟨value.symm, left⟩
  | string | emptyArray | array => exact absurd (List.cons.inj eq).1 (by decide)

theorem cuts_lastItem {v : Json} {s z : List Char} (known : ∀ w ∈ W, w ∈ words)
    (closing : Closing ']' z) (value : Cuts W digits s (.value v)) :
    Cuts W digits (s ++ z) (.items [v]) := by
  intro depth vs' s' r r' spelt eq
  have ends := closing.ends (by simp [Ender]) r
  rw [List.append_assoc] at eq
  cases spelt with
  | lastItem spelt' closing' =>
    rw [List.append_assoc] at eq
    have ends' := closing'.ends (by simp [Ender]) r'
    obtain ⟨rfl, rest⟩ := value _ _ _ _ (spelt'.shape known) ends ends' eq
    exact ⟨rfl, closing.cut rfl closing' rest⟩
  | item spelt' marked' others =>
    rw [List.append_assoc, List.append_assoc] at eq
    -- The other one goes on with a comma where this one is closed.
    obtain ⟨-, rest⟩ := value _ _ _ _ (spelt'.shape known) ends
      (marked'.ends (by simp [Ender]) _) eq
    exact absurd rest (closing.ne_marked rfl rfl (by decide) marked')

theorem cuts_item {v : Json} {vs : List Json} {s m t : List Char} (known : ∀ w ∈ W, w ∈ words)
    (marked : Marked ',' m) (begins : Begins t) (value : Cuts W digits s (.value v))
    (others : Cuts W digits t (.items vs)) :
    Cuts W digits (s ++ (m ++ t)) (.items (v :: vs)) := by
  intro depth vs' s' r r' spelt eq
  have ends := marked.ends (by simp [Ender]) (t ++ r)
  rw [List.append_assoc, List.append_assoc] at eq
  cases spelt with
  | lastItem spelt' closing' =>
    rw [List.append_assoc] at eq
    have ends' := closing'.ends (by simp [Ender]) r'
    obtain ⟨-, rest⟩ := value _ _ _ _ (spelt'.shape known) ends ends' eq
    exact absurd rest.symm (closing'.ne_marked rfl rfl (by decide) marked)
  | item spelt' marked' others' =>
    rw [List.append_assoc, List.append_assoc] at eq
    obtain ⟨rfl, rest⟩ := value _ _ _ _ (spelt'.shape known) ends
      (marked'.ends (by simp [Ender]) _) eq
    have same := marked.cut rfl marked' (begins.append r) ((others'.begins known).append r') rest
    obtain ⟨rfl, left⟩ := others _ _ _ _ _ others' same
    exact ⟨rfl, left⟩

theorem cuts_lastMember {name : String} {v : Json} {l s z : List Char}
    (known : ∀ w ∈ W, w ∈ words) (label : Label name l) (begins : Begins s)
    (closing : Closing '}' z) (value : Cuts W digits s (.value v)) :
    Cuts W digits (l ++ (s ++ z)) (.members [(name, v)]) := by
  intro depth ms' s' r r' spelt eq
  have ends := closing.ends (by simp [Ender]) r
  rw [List.append_assoc, List.append_assoc] at eq
  cases spelt with
  | lastMember label' spelt' closing' =>
    rw [List.append_assoc, List.append_assoc] at eq
    obtain ⟨rfl, rest⟩ :=
      label.cut label' (begins.append _) ((spelt'.begins known).append _) eq
    have ends' := closing'.ends (by simp [Ender]) r'
    obtain ⟨rfl, rest⟩ := value _ _ _ _ (spelt'.shape known) ends ends' rest
    exact ⟨rfl, closing.cut rfl closing' rest⟩
  | member label' spelt' marked' others =>
    rw [List.append_assoc, List.append_assoc, List.append_assoc] at eq
    obtain ⟨rfl, rest⟩ :=
      label.cut label' (begins.append _) ((spelt'.begins known).append _) eq
    obtain ⟨-, rest⟩ := value _ _ _ _ (spelt'.shape known) ends
      (marked'.ends (by simp [Ender]) _) rest
    exact absurd rest (closing.ne_marked rfl rfl (by decide) marked')

theorem cuts_member {name : String} {v : Json} {ms : List (String × Json)} {l s m t : List Char}
    (known : ∀ w ∈ W, w ∈ words) (label : Label name l) (begins : Begins s)
    (marked : Marked ',' m) (begins' : Begins t) (value : Cuts W digits s (.value v))
    (others : Cuts W digits t (.members ms)) :
    Cuts W digits (l ++ (s ++ (m ++ t))) (.members ((name, v) :: ms)) := by
  intro depth ms' s' r r' spelt eq
  have ends := marked.ends (by simp [Ender]) (t ++ r)
  rw [List.append_assoc, List.append_assoc, List.append_assoc] at eq
  cases spelt with
  | lastMember label' spelt' closing' =>
    rw [List.append_assoc, List.append_assoc] at eq
    obtain ⟨rfl, rest⟩ :=
      label.cut label' (begins.append _) ((spelt'.begins known).append _) eq
    have ends' := closing'.ends (by simp [Ender]) r'
    obtain ⟨-, rest⟩ := value _ _ _ _ (spelt'.shape known) ends ends' rest
    exact absurd rest.symm (closing'.ne_marked rfl rfl (by decide) marked)
  | member label' spelt' marked' others' =>
    rw [List.append_assoc, List.append_assoc, List.append_assoc] at eq
    obtain ⟨rfl, rest⟩ :=
      label.cut label' (begins.append _) ((spelt'.begins known).append _) eq
    obtain ⟨rfl, rest⟩ := value _ _ _ _ (spelt'.shape known) ends
      (marked'.ends (by simp [Ender]) _) rest
    have same := marked.cut rfl marked' (begins'.append r) ((others'.begins known).append r') rest
    obtain ⟨rfl, left⟩ := others _ _ _ _ _ others' same
    exact ⟨rfl, left⟩

/-- Two spellings in front of one text spell the same and leave the same. -/
theorem Spelt.cut (known : ∀ w ∈ W, w ∈ words) (known' : ∀ w ∈ W', w ∈ words) {depth : Nat}
    {node : Node} {s : List Char} (h : Spelt W digits depth node s) :
    Cuts W' digits' s node := by
  -- The induction is on one spelling; each lemma takes the other one apart.
  induction h with
  | word mem => exact cuts_scalar (.word (known _ mem))
  | number spells => exact cuts_scalar (.number spells rfl)
  | string quoted => exact cuts_string quoted
  | emptyArray closing => exact cuts_emptyArray known' closing
  | array gap spelt ih => exact cuts_array known' gap (spelt.begins known) ih
  | emptyObject closing => exact cuts_emptyObject known' closing
  | object gap spelt ih => exact cuts_object known' gap (spelt.begins known) ih
  | lastItem _ closing ih => exact cuts_lastItem known' closing ih
  | item _ marked spelt' ih ih' => exact cuts_item known' marked (spelt'.begins known) ih ih'
  | lastMember label spelt closing ih =>
    exact cuts_lastMember known' label (spelt.begins known) closing ih
  | member label spelt marked spelt' ih ih' =>
    exact cuts_member known' label (spelt.begins known) marked (spelt'.begins known) ih ih'

/-- A whole text has one value, whatever the limits are. -/
theorem WholeText.unique (known : ∀ w ∈ W, w ∈ words) (known' : ∀ w ∈ W', w ∈ words)
    {depth depth' : Nat} {v v' : Json} {text : List Char} (h : WholeText W digits depth v text)
    (h' : WholeText W' digits' depth' v' text) : v = v' := by
  obtain ⟨g, s, r, gap, spelt, gapBehind, rfl⟩ := h
  obtain ⟨g', s', r', gap', spelt', gapBehind', eq⟩ := h'
  have same := Begins.cut gap gap' ((spelt.begins known).append r)
    ((spelt'.begins known').append r') eq
  exact (spelt.cut known known' _ _ _ _ (spelt'.shape known') (ends_of_gap gapBehind)
    (ends_of_gap gapBehind') same).1

end LedgerGateway.Json
