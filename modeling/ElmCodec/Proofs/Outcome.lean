/-
**Outcomes of computations that may be refused.**

A computation in `Except` gives its result exactly when each of its steps gives one.

* `exists_item_of_mem`, `exists_result_of_mem`, `exists_results` — lists whose items correspond.
* `bind_eq_ok_iff`, `seq_eq_ok_iff`, `map_eq_ok_iff`, `toOption_eq_some_iff`, `mapError_eq_ok_iff` —
  one step after another, and a function of a result or of a refusal.
* `unless_eq_ok_iff`, `require_eq_ok_iff` — a condition that must not, or has to, hold.
* `mapM_eq_ok_iff`, `mapM_eq_ok_iff_eq_map`, `forM_eq_ok_iff` — a step for each item of a list.
* `bind_eq_error_iff`, `seq_eq_error_iff`, `exists_of_mapError`, `map_eq_error_iff`,
  `mapM_eq_error`, `require_eq_error_iff` — the step that a refusal comes from.
-/

import Mathlib.Data.List.Forall2
import ElmCodec.Schema.Build

namespace ElmCodec

section Lists

variable {α β : Type} {related : α → β → Prop} {items : List α} {results : List β}

theorem exists_item_of_mem (each : List.Forall₂ related items results) {result : β}
    (member : result ∈ results) : ∃ item ∈ items, related item result := by
  induction each with
  | nil => cases member
  | cons first _ ih =>
    rcases List.mem_cons.mp member with rfl | later
    · exact ⟨_, List.mem_cons_self, first⟩
    · obtain ⟨item, inside, holds⟩ := ih later
      exact ⟨item, List.mem_cons_of_mem _ inside, holds⟩

theorem exists_result_of_mem (each : List.Forall₂ related items results) {item : α}
    (member : item ∈ items) : ∃ result ∈ results, related item result := by
  induction each with
  | nil => cases member
  | cons first _ ih =>
    rcases List.mem_cons.mp member with rfl | later
    · exact ⟨_, List.mem_cons_self, first⟩
    · obtain ⟨result, inside, holds⟩ := ih later
      exact ⟨result, List.mem_cons_of_mem _ inside, holds⟩

theorem exists_results (each : ∀ item ∈ items, ∃ result, related item result) :
    ∃ results, List.Forall₂ related items results := by
  induction items with
  | nil => exact ⟨[], .nil⟩
  | cons item rest ih =>
    rw [List.forall_mem_cons] at each
    obtain ⟨result, first⟩ := each.1
    obtain ⟨results, others⟩ := ih each.2
    exact ⟨result :: results, .cons first others⟩

end Lists

section Steps

variable {ε α β : Type}

theorem bind_eq_ok_iff {first : Except ε α} {next : α → Except ε β} {result : β} :
    (first >>= next) = .ok result ↔ ∃ value, first = .ok value ∧ next value = .ok result := by
  cases first with
  | error refusal => exact ⟨nofun, nofun⟩
  | ok value =>
    constructor
    · exact fun after => ⟨value, rfl, after⟩
    · rintro ⟨_, same, after⟩
      cases same
      exact after

/-- A step without a result, before another one. -/
theorem seq_eq_ok_iff {first : Except ε Unit} {next : Unit → Except ε β} {result : β} :
    (first >>= next) = .ok result ↔ first = .ok () ∧ next () = .ok result := by
  rw [bind_eq_ok_iff]
  exact ⟨fun ⟨_, checked, after⟩ => ⟨checked, after⟩, fun ⟨checked, after⟩ => ⟨(), checked, after⟩⟩

/-- A condition that refuses, before another step. -/
theorem unless_eq_ok_iff {condition : Prop} [Decidable condition] {refusal : ε}
    {next : PUnit → Except ε β} {other : Except ε β} {result : β} :
    (if condition then throw refusal >>= next else other) = .ok result ↔
      ¬condition ∧ other = .ok result := by
  by_cases refused : condition
  · rw [if_pos refused]
    exact ⟨nofun, fun both => absurd refused both.1⟩
  · rw [if_neg refused, and_iff_right refused]

theorem map_eq_ok_iff {outcome : Except ε α} {f : α → β} {result : β} :
    outcome.map f = .ok result ↔ ∃ value, outcome = .ok value ∧ f value = result := by
  cases outcome with
  | error refusal => exact ⟨nofun, nofun⟩
  | ok value =>
    constructor
    · exact fun same => ⟨value, rfl, Except.ok.inj same⟩
    · rintro ⟨_, same, rfl⟩
      cases same
      rfl

theorem toOption_eq_some_iff {outcome : Except ε α} {result : α} :
    outcome.toOption = some result ↔ outcome = .ok result := by
  cases outcome <;> simp [Except.toOption]

theorem mapError_eq_ok_iff {ε' : Type} {outcome : Except ε α} {f : ε → ε'} {result : α} :
    outcome.mapError f = .ok result ↔ outcome = .ok result := by
  cases outcome <;> simp [Except.mapError]

theorem pure_eq_ok_iff {value result : α} :
    (pure value : Except ε α) = .ok result ↔ value = result :=
  ⟨Except.ok.inj, congrArg Except.ok⟩

/-- **A step for each item** gives a list of results exactly when each step gives its own. -/
theorem mapM_eq_ok_iff {f : α → Except ε β} {items : List α} {results : List β} :
    items.mapM f = .ok results ↔
      List.Forall₂ (fun item result => f item = .ok result) items results := by
  induction items generalizing results with
  | nil =>
    rw [List.mapM_nil, pure_eq_ok_iff, List.forall₂_nil_left_iff]
    exact eq_comm
  | cons item rest ih =>
    rw [List.mapM_cons, bind_eq_ok_iff, List.forall₂_cons_left_iff]
    constructor
    · rintro ⟨head, first, after⟩
      obtain ⟨tail, others, same⟩ := bind_eq_ok_iff.mp after
      exact ⟨head, tail, first, ih.mp others, (pure_eq_ok_iff.mp same).symm⟩
    · rintro ⟨head, tail, first, others, rfl⟩
      exact ⟨head, first, bind_eq_ok_iff.mpr ⟨tail, ih.mpr others, rfl⟩⟩

/-- Steps with a known condition and a known result. -/
theorem mapM_eq_ok_iff_eq_map {f : α → Except ε β} {accepts : α → Prop} {image : α → β}
    (step : ∀ item result, f item = .ok result ↔ accepts item ∧ result = image item)
    {items : List α} {results : List β} :
    items.mapM f = .ok results ↔ (∀ item ∈ items, accepts item) ∧ results = items.map image := by
  rw [mapM_eq_ok_iff]
  induction items generalizing results with
  | nil =>
    rw [List.forall₂_nil_left_iff, List.map_nil]
    exact ⟨fun same => ⟨nofun, same⟩, And.right⟩
  | cons item rest ih =>
    rw [List.forall₂_cons_left_iff, List.forall_mem_cons, List.map_cons]
    constructor
    · rintro ⟨head, tail, first, others, rfl⟩
      obtain ⟨accepted, rfl⟩ := (step item head).mp first
      obtain ⟨all, rfl⟩ := ih.mp others
      exact ⟨⟨accepted, all⟩, rfl⟩
    · rintro ⟨⟨accepted, all⟩, rfl⟩
      exact ⟨_, _, (step item _).mpr ⟨accepted, rfl⟩, ih.mpr ⟨all, rfl⟩, rfl⟩

theorem forM_eq_ok_iff {f : α → Except ε Unit} {items : List α} :
    items.forM f = .ok () ↔ ∀ item ∈ items, f item = .ok () := by
  induction items with
  | nil => exact ⟨fun _ => nofun, fun _ => rfl⟩
  | cons item rest ih =>
    rw [List.forall_mem_cons, ← ih]
    exact seq_eq_ok_iff

/-! ### Refusals -/

/-- Two steps are refused when one of them is. -/
theorem bind_eq_error_iff {first : Except ε α} {next : α → Except ε β} {refusal : ε} :
    (first >>= next) = .error refusal ↔
      first = .error refusal ∨ ∃ value, first = .ok value ∧ next value = .error refusal := by
  cases first <;> simp [bind, Except.bind]

/-- A step without a result, before another one. -/
theorem seq_eq_error_iff {first : Except ε Unit} {next : Unit → Except ε β} {refusal : ε} :
    (first >>= next) = .error refusal ↔
      first = .error refusal ∨ first = .ok () ∧ next () = .error refusal := by
  rw [bind_eq_error_iff]
  exact or_congr_right ⟨fun ⟨_, checked, later⟩ => ⟨checked, later⟩,
    fun ⟨checked, later⟩ => ⟨(), checked, later⟩⟩

/-- A refusal that is put in other words. -/
theorem exists_of_mapError {ε' : Type} {outcome : Except ε α} {f : ε → ε'} {refusal : ε'}
    (refused : outcome.mapError f = .error refusal) : ∃ cause, f cause = refusal := by
  cases outcome with
  | error cause => exact ⟨cause, Except.error.inj refused⟩
  | ok value => cases refused

theorem map_eq_error_iff {outcome : Except ε α} {f : α → β} {refusal : ε} :
    outcome.map f = .error refusal ↔ outcome = .error refusal := by
  cases outcome <;> simp [Except.map]

/-- **A step for each item** is refused for one of the items. -/
theorem mapM_eq_error {f : α → Except ε β} {items : List α} {refusal : ε}
    (refused : items.mapM f = .error refusal) : ∃ item ∈ items, f item = .error refusal := by
  induction items with
  | nil => cases refused
  | cons item rest ih =>
    rw [List.mapM_cons, bind_eq_error_iff] at refused
    rcases refused with first | ⟨value, _, later⟩
    · exact ⟨item, List.mem_cons_self, first⟩
    · rcases bind_eq_error_iff.mp later with others | ⟨values, _, impossible⟩
      · obtain ⟨other, member, failed⟩ := ih others
        exact ⟨other, List.mem_cons_of_mem _ member, failed⟩
      · cases impossible

end Steps

theorem require_eq_error_iff {condition : Bool} {refusal error : SchemaError} :
    Schema.require condition refusal = .error error ↔ condition = false ∧ error = refusal := by
  cases condition <;> simp [Schema.require, eq_comm]

theorem require_eq_ok_iff {condition : Bool} {refusal : SchemaError} :
    Schema.require condition refusal = .ok () ↔ condition = true := by
  cases condition <;> simp [Schema.require]

end ElmCodec
