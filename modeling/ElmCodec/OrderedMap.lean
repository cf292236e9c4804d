/-
**Maps in the order of their keys.**

A map is a list of entries whose keys ascend strictly, so every map has one list and reading it
from the front visits the keys in order. Text keys are ordered by code point, paths component by
component.

* `get?_insert` — after an insertion the key has the new value and every other key its old one.
* `get?_erase` — after an erasure the key has no value and every other key its old one.
* `mem_entries_iff` — the entries are the pairs that looking up finds.
-/

namespace ElmCodec

/-! ### Keys -/

/-- Keys are in a strict order in which any two of them can be compared. -/
class KeyOrder (κ : Type) [LT κ] : Prop where
  irrefl : ∀ key : κ, ¬key < key
  trans : ∀ {first second third : κ}, first < second → second < third → first < third
  trichotomy : ∀ first second : κ, first < second ∨ first = second ∨ second < first

instance : KeyOrder String where
  irrefl := String.lt_irrefl
  trans := String.lt_trans
  trichotomy first second := by
    by_cases less : first < second
    · exact Or.inl less
    · by_cases greater : second < first
      · exact Or.inr (Or.inr greater)
      · exact Or.inr (Or.inl (String.le_antisymm (String.not_lt.mp greater)
          (String.not_lt.mp less)))

section Lists

variable {κ : Type} [LT κ] [KeyOrder κ]

theorem not_lt_self (keys : List κ) : ¬keys < keys := by
  induction keys with
  | nil => exact List.not_lt_nil []
  | cons key rest ih =>
    rw [List.cons_lt_cons_iff]
    rintro (less | ⟨_, less⟩)
    · exact KeyOrder.irrefl key less
    · exact ih less

theorem list_lt_trans {first second third : List κ} (below : first < second)
    (above : second < third) : first < third := by
  induction third generalizing first second with
  | nil => exact absurd above (List.not_lt_nil second)
  | cons key rest ih =>
    match first, second with
    | _, [] => exact absurd below (List.not_lt_nil _)
    | [], _ :: _ => exact List.nil_lt_cons key rest
    | head :: tail, middle :: behind =>
      rw [List.cons_lt_cons_iff] at below above ⊢
      rcases below with less | ⟨rfl, less⟩
      · rcases above with greater | ⟨rfl, _⟩
        · exact Or.inl (KeyOrder.trans less greater)
        · exact Or.inl less
      · rcases above with greater | ⟨rfl, greater⟩
        · exact Or.inl greater
        · exact Or.inr ⟨rfl, ih less greater⟩

theorem list_lt_trichotomy (first second : List κ) :
    first < second ∨ first = second ∨ second < first := by
  induction first generalizing second with
  | nil =>
    cases second with
    | nil => exact Or.inr (Or.inl rfl)
    | cons key rest => exact Or.inl (List.nil_lt_cons key rest)
  | cons head tail ih =>
    cases second with
    | nil => exact Or.inr (Or.inr (List.nil_lt_cons head tail))
    | cons key rest =>
      simp only [List.cons_lt_cons_iff]
      rcases KeyOrder.trichotomy head key with less | rfl | greater
      · exact Or.inl (Or.inl less)
      · rcases ih rest with less | rfl | greater
        · exact Or.inl (Or.inr ⟨rfl, less⟩)
        · exact Or.inr (Or.inl rfl)
        · exact Or.inr (Or.inr (Or.inr ⟨rfl, greater⟩))
      · exact Or.inr (Or.inr (Or.inl greater))

instance : KeyOrder (List κ) where
  irrefl := not_lt_self
  trans := list_lt_trans
  trichotomy := list_lt_trichotomy

end Lists

/-! ### Maps -/

/-- A finite map, kept as its entries in strictly ascending order of the keys. -/
structure OrderedMap (κ : Type) [LT κ] (α : Type) where
  entries : List (κ × α)
  ascending : entries.Pairwise fun first second => first.1 < second.1

namespace OrderedMap

variable {κ : Type} [LT κ] [DecidableEq κ] {α β : Type}

omit [DecidableEq κ] in
/-- Two maps are equal when their entries are. -/
@[ext] theorem ext {first second : OrderedMap κ α} (same : first.entries = second.entries) :
    first = second := by
  cases first; cases second; simp_all

instance [DecidableEq α] : DecidableEq (OrderedMap κ α) := fun first second =>
  if same : first.entries = second.entries then isTrue (ext same)
  else isFalse fun equal => same (by rw [equal])

/-- The map without entries. -/
def empty : OrderedMap κ α := ⟨[], List.Pairwise.nil⟩

instance : Inhabited (OrderedMap κ α) := ⟨empty⟩

/-- The keys, ascending. -/
def keys (map : OrderedMap κ α) : List κ := map.entries.map (·.1)

/-- The values, in the order of their keys. -/
def values (map : OrderedMap κ α) : List α := map.entries.map (·.2)

/-- The number of entries. -/
def size (map : OrderedMap κ α) : Nat := map.entries.length

/-- Whether there is no entry. -/
def isEmpty (map : OrderedMap κ α) : Bool := map.entries.isEmpty

/-- The value of the first entry with a key. -/
def lookupIn (key : κ) : List (κ × α) → Option α
  | [] => none
  | (other, value) :: rest => if key = other then some value else lookupIn key rest

/-- The value of a key. -/
def get? (map : OrderedMap κ α) (key : κ) : Option α := lookupIn key map.entries

/-- Whether a key has a value. -/
def contains (map : OrderedMap κ α) (key : κ) : Bool := (map.get? key).isSome

/-- The map with every value replaced by an image that depends on the key. -/
def mapEntries (f : κ → α → β) (map : OrderedMap κ α) : OrderedMap κ β :=
  ⟨map.entries.map fun entry => (entry.1, f entry.1 entry.2), by
    simpa [List.pairwise_map] using map.ascending⟩

/-- The entries that satisfy a predicate. -/
def filter (keep : κ → α → Bool) (map : OrderedMap κ α) : OrderedMap κ α :=
  ⟨map.entries.filter fun entry => keep entry.1 entry.2, map.ascending.filter _⟩

/-- The map without a key. -/
def erase (map : OrderedMap κ α) (key : κ) : OrderedMap κ α :=
  map.filter fun other _ => decide (other ≠ key)

section Insertion

variable [DecidableLT κ]

/-- Puts an entry before the first greater key, in place of an entry with the same key. -/
def insertIn (key : κ) (value : α) : List (κ × α) → List (κ × α)
  | [] => [(key, value)]
  | (other, old) :: rest =>
    if key = other then (key, value) :: rest
    else if key < other then (key, value) :: (other, old) :: rest
    else (other, old) :: insertIn key value rest

theorem mem_insertIn {key : κ} {value : α} {entries : List (κ × α)} {entry : κ × α}
    (member : entry ∈ insertIn key value entries) : entry = (key, value) ∨ entry ∈ entries := by
  induction entries with
  | nil => simpa [insertIn] using member
  | cons head rest ih =>
    obtain ⟨other, old⟩ := head
    unfold insertIn at member
    split at member
    · rcases List.mem_cons.mp member with rfl | later
      · exact Or.inl rfl
      · exact Or.inr (List.mem_cons_of_mem _ later)
    · split at member
      · rcases List.mem_cons.mp member with rfl | later
        · exact Or.inl rfl
        · exact Or.inr later
      · rcases List.mem_cons.mp member with rfl | later
        · exact Or.inr List.mem_cons_self
        · exact (ih later).imp id (List.mem_cons_of_mem _)

variable [KeyOrder κ]

theorem pairwise_insertIn {key : κ} {value : α} {entries : List (κ × α)}
    (ascending : entries.Pairwise fun first second => first.1 < second.1) :
    (insertIn key value entries).Pairwise fun first second => first.1 < second.1 := by
  induction entries with
  | nil => simp [insertIn]
  | cons head rest ih =>
    obtain ⟨other, old⟩ := head
    obtain ⟨below, tail⟩ := List.pairwise_cons.mp ascending
    unfold insertIn
    split
    · next same => exact List.pairwise_cons.mpr ⟨by subst same; exact below, tail⟩
    · next different =>
      split
      · next less =>
        refine List.pairwise_cons.mpr ⟨fun entry member => ?_, ascending⟩
        rcases List.mem_cons.mp member with rfl | later
        · exact less
        · exact KeyOrder.trans less (below entry later)
      · next notLess =>
        refine List.pairwise_cons.mpr ⟨fun entry member => ?_, ih tail⟩
        rcases mem_insertIn member with rfl | later
        · rcases KeyOrder.trichotomy key other with less | equal | greater
          · exact absurd less notLess
          · exact absurd equal different
          · exact greater
        · exact below entry later

/-- The map with a value given to a key. -/
def insert (map : OrderedMap κ α) (key : κ) (value : α) : OrderedMap κ α :=
  ⟨insertIn key value map.entries, pairwise_insertIn map.ascending⟩

/-- The map of a list of entries; of two entries with one key the later counts. -/
def ofList (entries : List (κ × α)) : OrderedMap κ α :=
  entries.foldl (fun map entry => map.insert entry.1 entry.2) empty

end Insertion

/-! ### Looking up -/

theorem lookupIn_insertIn [DecidableLT κ] (key other : κ) (value : α) (entries : List (κ × α)) :
    lookupIn other (insertIn key value entries) =
      if other = key then some value else lookupIn other entries := by
  induction entries with
  | nil => simp [insertIn, lookupIn]
  | cons head rest ih =>
    obtain ⟨first, old⟩ := head
    unfold insertIn
    by_cases same : key = first
    · subst same
      simp only [if_true, lookupIn]
      split <;> rfl
    · by_cases less : key < first
      · simp [same, less, lookupIn]
      · simp only [same, less, if_false, lookupIn, ih]
        by_cases equal : other = first
        · subst equal
          simp [Ne.symm same]
        · simp [equal]

/-- After an insertion the key has the new value and every other key its old one. -/
theorem get?_insert [DecidableLT κ] [KeyOrder κ] (map : OrderedMap κ α) (key other : κ)
    (value : α) :
    (map.insert key value).get? other = if other = key then some value else map.get? other :=
  lookupIn_insertIn key other value map.entries

omit [LT κ] in
theorem lookupIn_filter_ne (key other : κ) (entries : List (κ × α)) :
    lookupIn other (entries.filter fun entry => decide (entry.1 ≠ key)) =
      if other = key then none else lookupIn other entries := by
  induction entries with
  | nil => simp [lookupIn]
  | cons head rest ih =>
    obtain ⟨first, old⟩ := head
    by_cases same : first = key
    · subst same
      simp only [ne_eq, not_true_eq_false, decide_false, Bool.false_eq_true, not_false_eq_true,
        List.filter_cons_of_neg, ih, lookupIn]
      split <;> rfl
    · by_cases equal : other = first
      · subst equal
        simp [same, lookupIn]
      · simp only [ne_eq, same, not_false_eq_true, decide_true, List.filter_cons_of_pos, lookupIn,
          equal, if_false]
        exact ih

/-- After an erasure the key has no value and every other key its old one. -/
theorem get?_erase (map : OrderedMap κ α) (key other : κ) :
    (map.erase key).get? other = if other = key then none else map.get? other :=
  lookupIn_filter_ne key other map.entries

@[simp] theorem get?_empty (key : κ) : (empty : OrderedMap κ α).get? key = none := rfl

omit [LT κ] in
theorem mem_of_lookupIn {key : κ} {value : α} {entries : List (κ × α)}
    (found : lookupIn key entries = some value) : (key, value) ∈ entries := by
  induction entries with
  | nil => simp [lookupIn] at found
  | cons head rest ih =>
    obtain ⟨first, old⟩ := head
    unfold lookupIn at found
    split at found
    · next same => simp_all
    · exact List.mem_cons_of_mem _ (ih found)

theorem lookupIn_of_mem [KeyOrder κ] {key : κ} {value : α}
    {entries : List (κ × α)} (ascending : entries.Pairwise fun first second => first.1 < second.1)
    (member : (key, value) ∈ entries) : lookupIn key entries = some value := by
  induction entries with
  | nil => simp at member
  | cons head rest ih =>
    obtain ⟨first, old⟩ := head
    obtain ⟨below, tail⟩ := List.pairwise_cons.mp ascending
    rcases List.mem_cons.mp member with equal | later
    · simp_all [lookupIn]
    · have less := below _ later
      have different : key ≠ first := by
        rintro rfl
        exact KeyOrder.irrefl key less
      simp [lookupIn, different, ih tail later]

/-- The entries are the pairs that looking up finds. -/
theorem mem_entries_iff [KeyOrder κ] {map : OrderedMap κ α} {key : κ}
    {value : α} : (key, value) ∈ map.entries ↔ map.get? key = some value :=
  ⟨lookupIn_of_mem map.ascending, mem_of_lookupIn⟩

end OrderedMap

end ElmCodec
