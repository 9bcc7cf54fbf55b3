import LedgerGateway.Proofs.JsonUnambiguous
import LedgerGateway.Proofs.WritableValues
import LedgerGateway.Proofs.WrittenStrings

/-!
# Written JSON is read back

What is read holds each name once and its floating point numbers in lowest form. Such a value, if
its numbers are finite, is written as a text of the strict grammar, and the text spells that value
and no other. Where a name occurs twice in an object the text spells the value that is left when the
later member replaces the earlier one.

* `Holds` — what is said of every number and of the names of every object in a value.
* `Spelt.settled` — what is true of every value that was read.
* `spelt_write` — a value with finite numbers is spelt by its text within the limits that it keeps,
  as far as names are distinct.
* `wholeText_write_iff` — and the text spells nothing else.
-/

namespace LedgerGateway

namespace Decimal.Binary64

/-- The number is neither infinite nor no number at all. -/
def IsFinite : Binary64 → Prop
  | .finite _ _ _ => True
  | _ => False

end Decimal.Binary64

namespace Json

open Decimal (Binary64)

/-! ## What a value holds -/

/-- Every floating point number in the value and the names of every object in it are as told. -/
inductive Holds (float : Binary64 → Prop) (names : List String → Prop) : Json → Prop where
  | null : Holds float names .null
  | bool {b} : Holds float names (.bool b)
  | int {n} : Holds float names (.int n)
  | float {x} : float x → Holds float names (.float x)
  | string {s} : Holds float names (.string s)
  | array {vs} : (∀ v ∈ vs, Holds float names v) → Holds float names (.array vs)
  | object {ms} : names (Association.keys ms) → (∀ m ∈ ms, Holds float names m.2) →
      Holds float names (.object ms)

/-- All numbers in the value are finite. -/
def AllFinite : Json → Prop := Holds Binary64.IsFinite fun _ => True

/-- There is no floating point number in the value. -/
def Floatless : Json → Prop := Holds (fun _ => False) fun _ => True

/-- Each name occurs once in its object. -/
def Distinct : Json → Prop := Holds (fun _ => True) List.Nodup

/-- The value is as values are read: numbers in lowest form, each name once. -/
def Settled : Json → Prop := Holds Binary64.Canonical List.Nodup

/-- The numbers in the value are in lowest form. -/
def Canonical : Json → Prop := Holds Binary64.Canonical fun _ => True

/-- The numbers in the value can be written: they are finite and in lowest form. -/
def Writable : Json → Prop := Holds (fun x => x.IsFinite ∧ x.Canonical) fun _ => True

variable {float float' : Binary64 → Prop} {names names' : List String → Prop}

theorem Holds.imp {v : Json} (h : Holds float names v) (hf : ∀ x, float x → float' x)
    (hn : ∀ ks, names ks → names' ks) : Holds float' names' v := by
  induction h with
  | null => exact .null
  | bool => exact .bool
  | int => exact .int
  | float h => exact .float (hf _ h)
  | string => exact .string
  | array _ ih => exact .array ih
  | object h _ ih => exact .object (hn _ h) ih

theorem Holds.and {v : Json} (h : Holds float names v) (h' : Holds float' names' v) :
    Holds (fun x => float x ∧ float' x) (fun ks => names ks ∧ names' ks) v := by
  induction h with
  | null => exact .null
  | bool => exact .bool
  | int => exact .int
  | float h =>
    cases h' with
    | float h' => exact .float ⟨h, h'⟩
  | string => exact .string
  | array _ ih =>
    cases h' with
    | array h' => exact .array fun v mem => ih v mem (h' v mem)
  | object h _ ih =>
    cases h' with
    | object h' members => exact .object ⟨h, h'⟩ fun m mem => ih m mem (members m mem)

theorem AllFinite.writable {v : Json} (h : v.AllFinite) (canonical : v.Canonical) : v.Writable :=
  (Holds.and h canonical).imp (fun _ => id) fun _ _ => trivial

theorem Floatless.allFinite {v : Json} (h : v.Floatless) : v.AllFinite :=
  Holds.imp h (fun _ => False.elim) fun _ => id

theorem Floatless.canonical {v : Json} (h : v.Floatless) : v.Canonical :=
  Holds.imp h (fun _ => False.elim) fun _ => id

theorem Floatless.writable {v : Json} (h : v.Floatless) : v.Writable :=
  h.allFinite.writable h.canonical

theorem Settled.canonical {v : Json} (h : v.Settled) : v.Canonical :=
  Holds.imp h (fun _ => id) fun _ _ => trivial

theorem Settled.distinct {v : Json} (h : v.Settled) : v.Distinct :=
  Holds.imp h (fun _ _ => trivial) fun _ => id

theorem exists_fits_all {vs : List Json} (h : ∀ v ∈ vs, ∃ k, v.Fits k k) :
    ∃ k, ∀ v ∈ vs, v.Fits k k := by
  induction vs with
  | nil => exact ⟨0, fun v mem => absurd mem (by simp)⟩
  | cons v rest ih =>
    obtain ⟨k, fits⟩ := h v (by simp)
    obtain ⟨k', fits'⟩ := ih fun w mem => h w (List.mem_cons_of_mem v mem)
    refine ⟨max k k', fun w mem => ?_⟩
    rcases List.mem_cons.1 mem with rfl | behind
    · exact fits.mono (le_max_left _ _) (le_max_left _ _)
    · exact (fits' w behind).mono (le_max_right _ _) (le_max_right _ _)

/-- Every value is within some limits. -/
theorem Holds.exists_fits {v : Json} (h : Holds float names v) : ∃ k, v.Fits k k := by
  induction h with
  | null => exact ⟨0, .null⟩
  | bool => exact ⟨0, .bool⟩
  | int => exact ⟨_, .int (le_refl _)⟩
  | float => exact ⟨0, .float⟩
  | string => exact ⟨0, .string⟩
  | array _ ih =>
    obtain ⟨k, fits⟩ := exists_fits_all ih
    exact ⟨k + 1, .array fun v mem => (fits v mem).mono (Nat.le_succ k) (le_refl k)⟩
  | @object ms _ _ ih =>
    obtain ⟨k, fits⟩ := @exists_fits_all (ms.map Prod.snd) (List.forall_mem_map.2 ih)
    refine ⟨k + 1, .object fun m mem => ?_⟩
    exact (fits m.2 (List.mem_map_of_mem mem)).mono (Nat.le_succ k) (le_refl k)

/-! ## What is read -/

theorem keys_nodup_put {table : List (String × Json)} (h : (Association.keys table).Nodup)
    (key : String) (v : Json) : (Association.keys (Association.put table key v)).Nodup := by
  rw [Association.keys_put]
  split
  · exact h
  · next new =>
    rw [List.nodup_append]
    refine ⟨h, by simp, fun a mem b single => ?_⟩
    rw [List.mem_singleton.1 single]
    rintro rfl
    exact new mem

/-- Members that are put one by one leave each name once. -/
theorem keys_nodup_ofPairs (pairs : List (String × Json)) :
    (Association.keys (Association.ofPairs pairs)).Nodup := by
  -- What is put stands behind what is there already, so the claim is made for any table.
  have step : ∀ table : List (String × Json), (Association.keys table).Nodup →
      (Association.keys (pairs.foldl (fun t p => Association.put t p.1 p.2) table)).Nodup := by
    induction pairs with
    | nil => exact fun table h => h
    | cons p rest ih => exact fun table h => ih _ (keys_nodup_put h p.1 p.2)
  exact step [] List.nodup_nil

theorem put_new {table : List (String × Json)} {key : String}
    (h : key ∉ Association.keys table) (v : Json) :
    Association.put table key v = table ++ [(key, v)] := by
  induction table with
  | nil => rfl
  | cons head rest ih =>
    obtain ⟨k, old⟩ := head
    rw [Association.keys, List.map_cons, List.mem_cons, not_or] at h
    obtain ⟨other, behind⟩ := h
    rw [Association.put, if_neg (Ne.symm other), ih behind]
    rfl

/-- Members with different names stay as they are. -/
theorem ofPairs_eq {pairs : List (String × Json)} (h : (Association.keys pairs).Nodup) :
    Association.ofPairs pairs = pairs := by
  have step : ∀ table : List (String × Json), (Association.keys (table ++ pairs)).Nodup →
      pairs.foldl (fun t p => Association.put t p.1 p.2) table = table ++ pairs := by
    clear h
    induction pairs with
    | nil => exact fun table _ => (List.append_nil table).symm
    | cons p rest ih =>
      intro table nodup
      have new : p.1 ∉ Association.keys table := by
        rw [Association.keys, List.map_append, List.nodup_append] at nodup
        exact fun mem => nodup.2.2 p.1 mem p.1 (by simp) rfl
      rw [List.foldl_cons, put_new new, ih _ (by simpa using nodup), List.append_assoc]
      rfl
  exact step [] h

mutual

/-- The value that is left when of two members of one name the later one replaces the earlier. -/
def settle : Json → Json
  | .array vs => .array (settleItems vs)
  | .object ms => .object (Association.ofPairs (settleMembers ms))
  | v => v

/-- The same of each item. -/
def settleItems : List Json → List Json
  | [] => []
  | v :: rest => v.settle :: settleItems rest

/-- The same of each member by itself. -/
def settleMembers : List (String × Json) → List (String × Json)
  | [] => []
  | (name, v) :: rest => (name, v.settle) :: settleMembers rest

end

theorem settleItems_eq_map (vs : List Json) : settleItems vs = vs.map settle := by
  induction vs with
  | nil => rfl
  | cons v rest ih => rw [settleItems, ih, List.map_cons]

theorem settleMembers_eq {ms : List (String × Json)} (h : ∀ m ∈ ms, m.2.settle = m.2) :
    settleMembers ms = ms := by
  induction ms with
  | nil => rfl
  | cons m rest ih =>
    obtain ⟨name, v⟩ := m
    have same : v.settle = v := h (name, v) (by simp)
    rw [settleMembers, same, ih fun w mem => h w (List.mem_cons_of_mem _ mem)]

/-- Nothing is left of that where each name occurs once. -/
theorem Distinct.settle_eq {v : Json} (h : v.Distinct) : v.settle = v := by
  induction h with
  | null | bool | int | float | string => rfl
  | array _ ih => rw [settle, settleItems_eq_map, List.map_congr_left ih, List.map_id']
  | object nodup _ ih => rw [settle, settleMembers_eq ih, ofPairs_eq nodup]

/-- What holds of each part of a text that was read. -/
def Node.Settled : Node → Prop
  | .value v => v.Settled
  | .items vs => ∀ v ∈ vs, v.Settled
  | .members ms => ∀ m ∈ ms, m.2.Settled

variable {W : List (List Char × Json)} {digits depth : Nat} {node : Node} {s : List Char}

/-- What is read has its numbers in lowest form and each name once. -/
theorem Spelt.settled (known : ∀ w ∈ W, w ∈ words) (h : Spelt W digits depth node s) :
    node.Settled := by
  -- Only numbers and objects have something to show; all else hands on what holds of its parts.
  induction h with
  | word mem =>
    have mem := known _ mem
    simp only [words, List.mem_cons, Prod.mk.injEq, List.not_mem_nil, or_false] at mem
    obtain ⟨-, rfl⟩ | ⟨-, rfl⟩ | ⟨-, rfl⟩ | ⟨-, rfl⟩ | ⟨-, rfl⟩ | ⟨-, rfl⟩ := mem
    · exact .null
    · exact .bool
    · exact .bool
    all_goals exact .float trivial
  | @number depth n s spells few =>
    show n.number.Settled
    rw [Numeral.number]
    split
    · exact .int
    · exact .float (Binary64.ofDecimal_canonical _ _ _)
  | string => exact .string
  | emptyArray => exact .array fun v mem => absurd mem (by simp)
  | array _ _ ih => exact .array ih
  | emptyObject => exact .object List.nodup_nil fun m mem => absurd mem (by simp)
  | @object depth g ms s _ _ ih =>
    refine .object (keys_nodup_ofPairs ms) fun m mem => ?_
    obtain ⟨p, there, eq⟩ := exists_of_mem_ofPairs mem
    exact eq ▸ ih p there
  | lastItem _ _ ih =>
    intro v mem
    rw [List.mem_singleton.1 mem]
    exact ih
  | item _ _ _ ih ih' =>
    intro v mem
    rcases List.mem_cons.1 mem with rfl | behind
    · exact ih
    · exact ih' v behind
  | lastMember _ _ _ ih =>
    intro m mem
    rw [List.mem_singleton.1 mem]
    exact ih
  | member _ _ _ _ ih ih' =>
    intro m mem
    rcases List.mem_cons.1 mem with rfl | behind
    · exact ih
    · exact ih' m behind

/-! ## What is written -/

variable {style : Style}

theorem spelt_string (ascii : Bool) (t : String) :
    Spelt W digits depth (.value (.string t)) (writeString ascii t) := by
  obtain ⟨q, quoted, eq⟩ := Quoted.writeString ascii t
  have spelt : Spelt W digits depth (.value (.string (String.ofList t.toList))) ('"' :: q) :=
    .string quoted
  rw [String.ofList_toList] at spelt
  exact eq ▸ spelt

/-- The items of an array, and its bracket. -/
theorem spelt_items (regular : style.Regular) (v : Json) (rest : List Json)
    (h : ∀ w ∈ v :: rest, Spelt W digits depth (.value w.settle) (writeChars style w)) :
    Spelt W digits depth (.items (settleItems (v :: rest)))
      (writeChars style v ++ (writeItems style rest ++ [']'])) := by
  induction rest generalizing v with
  | nil => exact .lastItem (h v (by simp)) ⟨[], gap_nil, rfl⟩
  | cons v' rest ih =>
    have items := ih v' fun w mem => h w (List.mem_cons_of_mem v mem)
    rw [writeItems, List.append_assoc, List.append_assoc]
    exact .item (h v (by simp)) regular.comma items

/-- The members of an object, and its brace. Their names are those that are written. -/
theorem spelt_members (regular : style.Regular) (name : String) (v : Json)
    (rest : List (String × Json))
    (h : ∀ m ∈ (name, v) :: rest,
      Spelt W digits depth (.value m.2.settle) (writeChars style m.2)) :
    Spelt W digits depth (.members (settleMembers ((name, v) :: rest)))
      (writeString style.ascii name ++ style.colon ++
        (writeChars style v ++ (writeMembers style rest ++ ['}']))) := by
  have label (name : String) := label_written regular name
  induction rest generalizing name v with
  | nil => exact .lastMember (label name) (h (name, v) (by simp)) ⟨[], gap_nil, rfl⟩
  | cons next rest ih =>
    obtain ⟨name', v'⟩ := next
    have members := ih name' v' fun m mem => h m (List.mem_cons_of_mem _ mem)
    have member := Spelt.member (label name) (h (name, v) (by simp)) regular.comma members
    simpa only [settleMembers, writeMembers, List.append_assoc] using member

/-- A value with finite numbers is spelt by its text within the limits that it keeps, as far as
names are distinct. -/
theorem spelt_write (regular : style.Regular) (strict : ∀ w ∈ strictWords, w ∈ W) {v : Json}
    (h : v.Writable) (fits : v.Fits digits depth) :
    Spelt W digits depth (.value v.settle) (writeChars style v) := by
  have word {v : Json} {w : List Char} (mem : (w, v) ∈ strictWords) {depth : Nat} :
      Spelt W digits depth (.value v) w := .word (strict _ mem)
  induction h generalizing depth with
  | null => exact word (by simp [writeChars, settle, strictWords])
  | @bool b => cases b <;> exact word (by simp [writeChars, settle, strictWords])
  | @int n =>
    obtain ⟨m, spells, -, count, value⟩ := Numeral.exists_int n
    cases fits with
    | int few =>
      have spelt : Spelt W digits depth (.value m.number) _ :=
        .number spells fun _ => count ▸ few
      rw [value] at spelt
      exact spelt
  | @float x h =>
    obtain ⟨finite, canonical⟩ := h
    cases x with
    | infinite => exact finite.elim
    | nan => exact finite.elim
    | finite negative mantissa exponent =>
      -- The text has a point or an exponent, so its digits are not counted.
      obtain ⟨m, spells, noInteger, value⟩ := Numeral.exists_float canonical
      have spelt : Spelt W digits depth (.value m.number) _ :=
        .number spells fun integer => absurd (noInteger.symm.trans integer) (by decide)
      rw [value] at spelt
      exact spelt
  | @string t => exact spelt_string style.ascii t
  | @array vs _ ih =>
    cases fits with
    | array inside =>
      cases vs with
      | nil => exact .emptyArray ⟨[], gap_nil, rfl⟩
      | cons v rest =>
        have items := spelt_items regular v rest fun w mem => ih w mem (inside w mem)
        have array := Spelt.array gap_nil items
        simpa only [writeChars, settle, List.nil_append, List.cons_append, List.append_assoc]
          using array
  | @object ms _ _ ih =>
    cases fits with
    | object inside =>
      cases ms with
      | nil => exact .emptyObject ⟨[], gap_nil, rfl⟩
      | cons m rest =>
        obtain ⟨name, v⟩ := m
        have members := spelt_members regular name v rest fun m mem => ih m mem (inside m mem)
        have object := Spelt.object gap_nil members
        simpa only [writeChars, settle, List.nil_append, List.cons_append, List.append_assoc]
          using object

theorem wholeText_write (regular : style.Regular) (strict : ∀ w ∈ strictWords, w ∈ W) {v : Json}
    (h : v.Writable) (fits : v.Fits digits depth) :
    WholeText W digits depth v.settle (writeChars style v) :=
  ⟨[], _, [], gap_nil, spelt_write regular strict h fits, gap_nil, by simp⟩

/-! ## There and back -/

/-- The text of a value with finite numbers spells that value, as far as names are distinct, and
nothing else. -/
theorem wholeText_write_iff (regular : style.Regular) {v w : Json} (h : v.Writable) :
    (∃ digits depth, WholeText strictWords digits depth w (writeChars style v)) ↔
      w = v.settle := by
  obtain ⟨k, fits⟩ := Holds.exists_fits h
  have whole : WholeText strictWords k k v.settle (writeChars style v) :=
    wholeText_write regular (fun _ => id) h fits
  constructor
  · rintro ⟨digits, depth, whole'⟩
    exact whole'.unique strictWords_known strictWords_known whole
  · rintro rfl
    exact ⟨k, k, whole⟩

end Json

end LedgerGateway
