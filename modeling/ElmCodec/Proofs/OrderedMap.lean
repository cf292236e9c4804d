/-
**What maps in the order of their keys hold.**

* `keys_ascending`, `keys_nodup` — the keys of a map stand in order, each once.
* `contains_iff_mem_keys`, `mem_keys_iff` — which keys have a value.
* `eq_of_mem_iff`, `eq_of_get?` — the entries decide a map, and so do the values of all keys.
* `get?_mapEntries` — looking up after a change of the values.
* `entries_ofList_perm` — the map of a list with distinct keys holds the entries of the list.
* `mem_keys_ofList`, `mem_ofList_iff` — the map of a list has the keys of the list, and its entries
  if each key has one value.
-/

import Mathlib.Data.List.Nodup
import Mathlib.Data.List.Sort
import ElmCodec.OrderedMap

namespace ElmCodec.OrderedMap

variable {κ : Type} [LT κ] {α β : Type}

theorem keys_ascending (map : OrderedMap κ α) : map.keys.Pairwise (· < ·) := by
  rw [keys, List.pairwise_map]
  exact map.ascending

theorem keys_nodup [KeyOrder κ] (map : OrderedMap κ α) : map.keys.Nodup := by
  refine map.keys_ascending.imp ?_
  rintro first _ below rfl
  exact KeyOrder.irrefl first below

theorem keys_mapEntries (f : κ → α → β) (map : OrderedMap κ α) :
    (map.mapEntries f).keys = map.keys := by
  rw [keys, keys, mapEntries, List.map_map]
  rfl

section LookUp

variable [DecidableEq κ]

theorem mem_keys_iff [KeyOrder κ] {map : OrderedMap κ α} {key : κ} :
    key ∈ map.keys ↔ ∃ value, map.get? key = some value := by
  rw [keys, List.mem_map]
  constructor
  · rintro ⟨⟨_, value⟩, member, rfl⟩
    exact ⟨value, mem_entries_iff.mp member⟩
  · rintro ⟨value, found⟩
    exact ⟨(key, value), mem_entries_iff.mpr found, rfl⟩

theorem contains_iff_mem_keys [KeyOrder κ] {map : OrderedMap κ α} {key : κ} :
    map.contains key = true ↔ key ∈ map.keys := by
  rw [contains, Option.isSome_iff_exists, mem_keys_iff]

omit [DecidableEq κ] in
/-- **Maps that hold the same entries** are one map. -/
theorem eq_of_mem_iff [KeyOrder κ] {first second : OrderedMap κ α}
    (same : ∀ entry, entry ∈ first.entries ↔ entry ∈ second.entries) : first = second := by
  have antisymm : Std.Antisymm fun first second : κ × α => first.1 < second.1 :=
    ⟨fun _ _ less greater => absurd (KeyOrder.trans less greater) (KeyOrder.irrefl _)⟩
  have irrefl : Std.Irrefl fun first second : κ × α => first.1 < second.1 :=
    ⟨fun _ => KeyOrder.irrefl _⟩
  exact ext (first.ascending.eq_of_mem_iff second.ascending same)

/-- **Maps in which all keys have the same values** are one map. -/
theorem eq_of_get? [KeyOrder κ] {first second : OrderedMap κ α}
    (same : ∀ key, first.get? key = second.get? key) : first = second :=
  eq_of_mem_iff fun entry => by rw [mem_entries_iff, mem_entries_iff, same]

omit [LT κ] in
theorem lookupIn_map (f : κ → α → β) (key : κ) (entries : List (κ × α)) :
    lookupIn key (entries.map fun entry => (entry.1, f entry.1 entry.2)) =
      (lookupIn key entries).map (f key) := by
  induction entries with
  | nil => rfl
  | cons head rest ih =>
    obtain ⟨other, value⟩ := head
    rw [List.map_cons, lookupIn, lookupIn]
    split
    · next same => rw [same, Option.map_some]
    · exact ih

theorem get?_mapEntries (f : κ → α → β) (map : OrderedMap κ α) (key : κ) :
    (map.mapEntries f).get? key = (map.get? key).map (f key) :=
  lookupIn_map f key map.entries

end LookUp

section OfList

variable [DecidableEq κ] [DecidableLT κ]

theorem insertIn_perm {key : κ} {entries : List (κ × α)} (value : α)
    (fresh : key ∉ entries.map (·.1)) :
    (insertIn key value entries).Perm ((key, value) :: entries) := by
  induction entries with
  | nil => exact .refl _
  | cons head rest ih =>
    obtain ⟨other, old⟩ := head
    rw [List.map_cons, List.mem_cons, not_or] at fresh
    rw [insertIn, if_neg fresh.1]
    split
    · exact .refl _
    · exact ((ih fresh.2).cons _).trans (.swap _ _ _)

variable [KeyOrder κ]

theorem foldl_insert_perm (entries : List (κ × α)) (start : OrderedMap κ α)
    (distinct : (start.keys ++ entries.map (·.1)).Nodup) :
    (entries.foldl (fun map entry => map.insert entry.1 entry.2) start).entries.Perm
      (start.entries ++ entries) := by
  induction entries generalizing start with
  | nil => rw [List.foldl_nil, List.append_nil]
  | cons head rest ih =>
    rw [List.map_cons, List.nodup_middle, List.nodup_cons, List.mem_append, not_or] at distinct
    obtain ⟨⟨fresh, notLater⟩, others⟩ := distinct
    have inserted : (start.insert head.1 head.2).entries.Perm (head :: start.entries) :=
      insertIn_perm head.2 fresh
    have keysInserted : (start.insert head.1 head.2).keys.Perm (head.1 :: start.keys) :=
      inserted.map _
    rw [List.foldl_cons]
    refine (ih _ ?_).trans ((inserted.append_right rest).trans List.perm_middle.symm)
    refine (keysInserted.append_right _).nodup_iff.mpr ?_
    rw [List.cons_append, List.nodup_cons, List.mem_append, not_or]
    exact ⟨⟨fresh, notLater⟩, others⟩

/-- **The map of a list with distinct keys** holds the entries of the list. -/
theorem entries_ofList_perm {entries : List (κ × α)} (distinct : (entries.map (·.1)).Nodup) :
    (ofList entries).entries.Perm entries :=
  foldl_insert_perm entries empty distinct

/-- The map of a list holds no other entries than those of the list. -/
theorem mem_of_mem_ofList {entries : List (κ × α)} {entry : κ × α}
    (member : entry ∈ (ofList entries).entries) : entry ∈ entries := by
  suffices general : ∀ start : OrderedMap κ α,
      entry ∈ (entries.foldl (fun map entry => map.insert entry.1 entry.2) start).entries →
        entry ∈ start.entries ∨ entry ∈ entries from
    (general empty member).resolve_left List.not_mem_nil
  clear member
  induction entries with
  | nil => exact fun start => .inl
  | cons head rest ih =>
    intro start inside
    rcases ih (start.insert head.1 head.2) inside with inserted | later
    · rcases mem_insertIn inserted with same | earlier
      · exact .inr (same ▸ List.mem_cons_self)
      · exact .inl earlier
    · exact .inr (List.mem_cons_of_mem head later)

theorem mem_keys_insert {map : OrderedMap κ α} {key other : κ} {value : α} :
    key ∈ (map.insert other value).keys ↔ key = other ∨ key ∈ map.keys := by
  rw [mem_keys_iff, mem_keys_iff, get?_insert]
  by_cases same : key = other
  · simp [same]
  · simp [same]

/-- **The map of a list** has the keys of the list. -/
theorem mem_keys_ofList {entries : List (κ × α)} {key : κ} :
    key ∈ (ofList entries).keys ↔ key ∈ entries.map (·.1) := by
  suffices general : ∀ start : OrderedMap κ α,
      key ∈ (entries.foldl (fun map entry => map.insert entry.1 entry.2) start).keys ↔
        key ∈ start.keys ∨ key ∈ entries.map (·.1) from
    (general empty).trans (or_iff_right List.not_mem_nil)
  induction entries with
  | nil => simp
  | cons head rest ih =>
    intro start
    rw [List.foldl_cons, ih, mem_keys_insert, List.map_cons, List.mem_cons, or_assoc, or_left_comm]

/-- **The map of a list in which each key has one value** holds the entries of the list. -/
theorem mem_ofList_iff {entries : List (κ × α)} (functional : ∀ first ∈ entries,
      ∀ second ∈ entries, first.1 = second.1 → first = second) {entry : κ × α} :
    entry ∈ (ofList entries).entries ↔ entry ∈ entries := by
  refine ⟨mem_of_mem_ofList, fun member => ?_⟩
  have key : entry.1 ∈ (ofList entries).keys := mem_keys_ofList.mpr (List.mem_map_of_mem member)
  obtain ⟨other, inside, same⟩ := List.mem_map.mp key
  rwa [functional entry member other (mem_of_mem_ofList inside) same.symm]

end OfList

end ElmCodec.OrderedMap
