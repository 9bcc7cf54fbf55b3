/-!
# Lists of keys and values

A table that is read and printed in the order in which its keys first came is a list of pairs. A
key occurs once: a second value for it takes the place of the first.

* `lookup_put` — after a change the key has the new value and every other key its old one.
* `keys_put` — the keys keep their order, and a new one comes last.
* `lookup_ofPairs` — of several pairs with one key the last one counts.
-/

namespace LedgerGateway.Association

variable {α β : Type} [DecidableEq α]

/-- Gives a key a value: in its place if the key is there, else at the end. -/
def put : List (α × β) → α → β → List (α × β)
  | [], key, v => [(key, v)]
  | (k, old) :: rest, key, v => if k = key then (k, v) :: rest else (k, old) :: put rest key v

/-- The table that a list of pairs leaves when each is put in turn. -/
def ofPairs (pairs : List (α × β)) : List (α × β) := pairs.foldl (fun t p => put t p.1 p.2) []

/-- The keys in order. -/
def keys (table : List (α × β)) : List α := table.map Prod.fst

theorem lookup_put [BEq α] [LawfulBEq α] (table : List (α × β)) (key other : α) (v : β) :
    (put table key v).lookup other = if other = key then some v else table.lookup other := by
  induction table with
  | nil =>
      by_cases h : other = key
      · simp [put, h]
      · simp [put, List.lookup_cons, h, beq_eq_false_iff_ne.2 h]
  | cons head rest ih =>
      obtain ⟨k, old⟩ := head
      by_cases same : k = key
      · subst same
        by_cases h : other = k
        · simp [put, h]
        · simp [put, List.lookup_cons, h, beq_eq_false_iff_ne.2 h]
      · by_cases h : other = k
        · subst h
          simp [put, same]
        · simp [put, List.lookup_cons, same, beq_eq_false_iff_ne.2 h, ih]

theorem keys_put (table : List (α × β)) (key : α) (v : β) :
    keys (put table key v) = if key ∈ keys table then keys table else keys table ++ [key] := by
  induction table with
  | nil => simp [put, keys]
  | cons head rest ih =>
      obtain ⟨k, old⟩ := head
      by_cases same : k = key
      · simp [put, keys, same]
      · have other : key ≠ k := fun h => same h.symm
        simp only [keys] at ih
        by_cases there : key ∈ rest.map Prod.fst
        · simp [put, keys, same, other, ih, there]
        · simp only [there, if_false] at ih
          simp [put, keys, same, other, ih, there]

section Pairs

variable [BEq α] [LawfulBEq α]

omit [DecidableEq α] in
theorem mem_of_lookup {table : List (α × β)} {key : α} {v : β}
    (found : table.lookup key = some v) : (key, v) ∈ table := by
  obtain ⟨front, behind, rfl, -⟩ := List.lookup_eq_some_iff.1 found
  exact List.mem_append_right _ List.mem_cons_self

/-- A value that the key has already changes nothing. -/
theorem put_of_lookup {table : List (α × β)} {key : α} {v : β}
    (found : table.lookup key = some v) : put table key v = table := by
  induction table with
  | nil => cases found
  | cons head rest ih =>
      obtain ⟨k, old⟩ := head
      by_cases same : k = key
      · subst same
        simpa [put, eq_comm] using found
      · rw [List.lookup_cons, beq_eq_false_iff_ne.2 (Ne.symm same)] at found
        simp [put, same, ih found]

/-- A new key comes last. -/
theorem put_of_lookup_eq_none {table : List (α × β)} {key : α} {v : β}
    (missing : table.lookup key = none) : put table key v = table ++ [(key, v)] := by
  induction table with
  | nil => rfl
  | cons head rest ih =>
      obtain ⟨k, old⟩ := head
      by_cases same : k = key
      · subst same
        simp at missing
      · rw [List.lookup_cons, beq_eq_false_iff_ne.2 (Ne.symm same)] at missing
        simp [put, same, ih missing]

theorem lookup_foldl_put (pairs table : List (α × β)) (key : α) :
    (pairs.foldl (fun t p => put t p.1 p.2) table).lookup key
      = (pairs.reverse.lookup key).or (table.lookup key) := by
  induction pairs generalizing table with
  | nil => rfl
  | cons p rest ih =>
      obtain ⟨k, v⟩ := p
      rw [List.foldl_cons, ih, lookup_put, List.reverse_cons, List.lookup_append, Option.or_assoc]
      congr 1
      by_cases same : key = k
      · simp [same]
      · simp [List.lookup_cons, same, beq_eq_false_iff_ne.2 same]

/-- Of several pairs with one key the last one counts. -/
theorem lookup_ofPairs (pairs : List (α × β)) (key : α) :
    (ofPairs pairs).lookup key = pairs.reverse.lookup key := by
  rw [ofPairs, lookup_foldl_put]
  exact Option.or_none

end Pairs

theorem mem_keys_foldl_put (pairs table : List (α × β)) (key : α) :
    key ∈ keys (pairs.foldl (fun t p => put t p.1 p.2) table) ↔
      key ∈ keys pairs ∨ key ∈ keys table := by
  induction pairs generalizing table with
  | nil => simp [keys]
  | cons p rest ih =>
      have new : key ∈ keys (put table p.1 p.2) ↔ key = p.1 ∨ key ∈ keys table := by
        rw [keys_put]
        split
        · next there =>
          constructor
          · exact Or.inr
          · rintro (rfl | old)
            · exact there
            · exact old
        · rw [List.mem_append, List.mem_singleton, or_comm]
      have head : key ∈ keys (p :: rest) ↔ key = p.1 ∨ key ∈ keys rest := List.mem_cons
      rw [List.foldl_cons, ih, new, head, or_left_comm, or_assoc]

theorem mem_keys_ofPairs (pairs : List (α × β)) (key : α) :
    key ∈ keys (ofPairs pairs) ↔ key ∈ keys pairs := by
  rw [ofPairs, mem_keys_foldl_put]
  simp [keys]

end LedgerGateway.Association
