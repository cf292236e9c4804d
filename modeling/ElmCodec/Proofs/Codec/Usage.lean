/-
**What a module uses, piece by piece.**

Noting a use in what was noted before is the same as noting it alone and putting the two together.
So a name is used by a module exactly when one of its pieces uses it, wherever the piece stands.

* `Usage.merge_assoc`, `Usage.empty_merge`, `Usage.merge_empty` — uses put together.
* `FieldType.noteUse_eq_merge`, `Field.noteUse_eq_merge`, `Record.noteUse_eq_merge` — noting a use
  is putting it to what was noted before.
* `Usage.IsFlag` — a question about uses that two pieces answer together with yes when one does.
* `FieldType.flag_noteUse_iff` — **the use of a type** is that of the types inside it.
* `Schema.flag_usageOf_iff` — **the use of a module** is that of its records and of their fields.
* `Schema.usageOf_perm` — the use of a module does not depend on the order of its records.
* `uses_merge` — **noting uses in place is putting them together**, in any order.
-/

import ElmCodec.Codec.Module

namespace ElmCodec

namespace Usage

/-! ### Uses put together -/

theorem merge_assoc (first second third : Usage) :
    (first.merge second).merge third = first.merge (second.merge third) := by
  simp [merge, Bool.or_assoc, Nat.max_assoc]

theorem merge_comm (first second : Usage) : first.merge second = second.merge first := by
  simp [merge, Bool.or_comm, Nat.max_comm]

@[simp] theorem merge_self (usage : Usage) : usage.merge usage = usage := by
  simp [merge]

@[simp] theorem empty_merge (usage : Usage) : ({} : Usage).merge usage = usage := by
  simp [merge]

@[simp] theorem merge_empty (usage : Usage) : usage.merge {} = usage := by
  simp [merge]

/-- Noting the uses of items one after the other puts them to what was noted before, if each use is
noted so. -/
theorem foldl_eq_merge {α : Type} {note : Usage → α → Usage}
    (merges : ∀ usage item, note usage item = usage.merge (note {} item)) (usage : Usage)
    (items : List α) : items.foldl note usage = usage.merge (items.foldl note {}) := by
  induction items generalizing usage with
  | nil => simp
  | cons item rest ih =>
    rw [List.foldl_cons, List.foldl_cons, ih (note usage item), ih (note {} item), merges usage,
      merge_assoc]

end Usage

/-- What a type uses beside the types inside it. -/
def FieldType.ownUse : FieldType → Usage
  | timestamp => { timestamp := true }
  | enumeration _ => { enums := true }
  | dict _ => { dict := true }
  | bool | int | string | float | value | record _ | list _ => {}

/-- What a field uses beside its type. -/
def Presence.use : Presence → Usage
  | optional none => { opField := true }
  | optional (some _) => { opFieldWithDefault := true }
  | required | now | never => {}

/-- What a record uses beside its fields. -/
def Record.ownUse (record : Record) : Usage := { maybeObject := true, arity := record.arity }

/-- **The use of a type** is put to what was noted before. -/
theorem FieldType.noteUse_eq_merge (usage : Usage) (type : FieldType) :
    type.noteUse usage = usage.merge (type.noteUse {}) := by
  induction type generalizing usage with
  | bool | int | string | float | value | record _ => simp [noteUse]
  | timestamp | enumeration _ => simp [noteUse, Usage.merge]
  | list element ih => exact ih usage
  | dict element ih =>
    have marked : { usage with dict := true } = usage.merge { dict := true } := by
      simp [Usage.merge]
    show element.noteUse { usage with dict := true } =
      usage.merge (element.noteUse { dict := true })
    rw [ih { usage with dict := true }, ih { dict := true }, marked, Usage.merge_assoc]

theorem Field.noteUse_eq (usage : Usage) (field : Field) :
    field.noteUse usage = (field.type.noteUse usage).merge field.presence.use := by
  unfold Field.noteUse
  cases field.presence with
  | required | now | never => simp [Presence.use]
  | optional default => cases default <;> simp [Presence.use, Usage.merge]

/-- **The use of a field** is put to what was noted before. -/
theorem Field.noteUse_eq_merge (usage : Usage) (field : Field) :
    field.noteUse usage = usage.merge (field.noteUse {}) := by
  rw [noteUse_eq, noteUse_eq, FieldType.noteUse_eq_merge, Usage.merge_assoc]

theorem Record.noteUse_eq (usage : Usage) (record : Record) :
    record.noteUse usage =
      (usage.merge record.ownUse).merge (record.fields.foldl Field.noteUse {}) := by
  have marked : { usage with maybeObject := true, arity := max usage.arity record.arity } =
      usage.merge record.ownUse := by
    simp [Usage.merge, ownUse]
  unfold noteUse
  rw [marked]
  exact Usage.foldl_eq_merge Field.noteUse_eq_merge _ _

/-- **The use of a record** is put to what was noted before. -/
theorem Record.noteUse_eq_merge (usage : Usage) (record : Record) :
    record.noteUse usage = usage.merge (record.noteUse {}) := by
  rw [noteUse_eq, noteUse_eq, Usage.empty_merge, Usage.merge_assoc]

/-! ### Questions about uses -/

/-- **A question about uses** that two pieces answer together with yes when one of them does. -/
structure Usage.IsFlag (flag : Usage → Bool) : Prop where
  merge : ∀ first second, flag (first.merge second) = (flag first || flag second)
  empty : flag {} = false

namespace Usage

/-- What is noted with yes or no. -/
inductive Flag where
  | dict
  | opField
  | opFieldWithDefault
  | maybeObject
  | timestamp
  | enums

/-- Whether a flag is raised. -/
def Flag.raised (flag : Flag) (usage : Usage) : Bool :=
  match flag with
  | dict => usage.dict
  | opField => usage.opField
  | opFieldWithDefault => usage.opFieldWithDefault
  | maybeObject => usage.maybeObject
  | timestamp => usage.timestamp
  | enums => usage.enums

theorem isFlag_raised (flag : Flag) : IsFlag flag.raised := by
  cases flag <;> exact ⟨fun _ _ => rfl, rfl⟩

/-- The greater of two numbers is beyond a bound when one of the two is. -/
theorem isFlag_needsExtendedArity : IsFlag needsExtendedArity := by
  refine ⟨fun first second => ?_, rfl⟩
  unfold needsExtendedArity merge
  rw [Bool.eq_iff_iff]
  simp only [gt_iff_lt, Bool.or_eq_true, decide_eq_true_eq]
  omega

end Usage

/-- A type inside another one, at any depth. -/
inductive FieldType.Inside (inner : FieldType) : FieldType → Prop where
  | here : Inside inner inner
  | list {element : FieldType} (inside : Inside inner element) : Inside inner (.list element)
  | dict {element : FieldType} (inside : Inside inner element) : Inside inner (.dict element)

section Flags

variable {flag : Usage → Bool} (isFlag : Usage.IsFlag flag)
include isFlag

theorem Usage.flag_foldl {α : Type} {note : Usage → α → Usage}
    (merges : ∀ usage item, note usage item = usage.merge (note {} item)) (items : List α) :
    flag (items.foldl note {}) = items.any fun item => flag (note {} item) := by
  induction items with
  | nil => exact isFlag.empty
  | cons item rest ih =>
    rw [List.foldl_cons, foldl_eq_merge merges, isFlag.merge, ih, List.any_cons]

/-- **The use of a type** is that of the types inside it. -/
theorem FieldType.flag_noteUse_iff (type : FieldType) :
    flag (type.noteUse {}) = true ↔ ∃ inner, Inside inner type ∧ flag inner.ownUse = true := by
  induction type with
  | bool | int | string | float | value | timestamp | enumeration _ | record _ =>
    constructor
    · intro used
      exact ⟨_, .here, used⟩
    · rintro ⟨_, ⟨⟩, used⟩
      exact used
  | list element ih =>
    rw [show (FieldType.list element).noteUse {} = element.noteUse {} from rfl, ih]
    constructor
    · rintro ⟨inner, inside, used⟩
      exact ⟨inner, .list inside, used⟩
    · rintro ⟨inner, inside, used⟩
      cases inside with
      | here => simp [ownUse, isFlag.empty] at used
      | list inside => exact ⟨inner, inside, used⟩
  | dict element ih =>
    rw [show (FieldType.dict element).noteUse {} = element.noteUse { dict := true } from rfl,
      noteUse_eq_merge, isFlag.merge, Bool.or_eq_true, ih]
    constructor
    · rintro (used | ⟨inner, inside, used⟩)
      · exact ⟨_, .here, used⟩
      · exact ⟨inner, .dict inside, used⟩
    · rintro ⟨inner, inside, used⟩
      cases inside with
      | here => exact .inl used
      | dict inside => exact .inr ⟨inner, inside, used⟩

theorem Field.flag_noteUse_iff (field : Field) :
    flag (field.noteUse {}) = true ↔ flag field.presence.use = true ∨
      ∃ inner, FieldType.Inside inner field.type ∧ flag inner.ownUse = true := by
  rw [noteUse_eq, isFlag.merge, Bool.or_eq_true, FieldType.flag_noteUse_iff isFlag, or_comm]

theorem Record.flag_noteUse_iff (record : Record) :
    flag (record.noteUse {}) = true ↔ flag record.ownUse = true ∨
      ∃ field ∈ record.fields, flag field.presence.use = true ∨
        ∃ inner, FieldType.Inside inner field.type ∧ flag inner.ownUse = true := by
  rw [noteUse_eq, Usage.empty_merge, isFlag.merge, Bool.or_eq_true,
    Usage.flag_foldl isFlag Field.noteUse_eq_merge, List.any_eq_true]
  simp only [Field.flag_noteUse_iff isFlag]

/-- **The use of a module** is that of its records and of their fields. -/
theorem Schema.flag_usageOf_iff (records : List Record) :
    flag (usageOf records) = true ↔ ∃ record ∈ records, flag record.ownUse = true ∨
      ∃ field ∈ record.fields, flag field.presence.use = true ∨
        ∃ inner, FieldType.Inside inner field.type ∧ flag inner.ownUse = true := by
  have merges : ∀ (usage : Usage) (record : Record), usage.merge (record.noteUse {}) =
      usage.merge (({} : Usage).merge (record.noteUse {})) := by simp
  unfold usageOf
  rw [Usage.flag_foldl isFlag merges, List.any_eq_true]
  simp only [Usage.empty_merge, Record.flag_noteUse_iff isFlag]

end Flags

/-! ### Uses in any order -/

theorem Record.noteUse_comm (usage : Usage) (first second : Record) :
    second.noteUse (first.noteUse usage) = first.noteUse (second.noteUse usage) := by
  rw [noteUse_eq_merge (first.noteUse usage), noteUse_eq_merge usage,
    noteUse_eq_merge (second.noteUse usage), noteUse_eq_merge usage second, Usage.merge_assoc,
    Usage.merge_assoc, Usage.merge_comm (first.noteUse {})]

/-- The use of a module may be noted in place, record by record. -/
theorem Schema.usageOf_eq_foldl (records : List Record) :
    usageOf records = records.foldl Record.noteUse {} := by
  unfold usageOf
  simp only [← Record.noteUse_eq_merge]

/-- **The use of a module** does not depend on the order of its records. -/
theorem Schema.usageOf_perm {records others : List Record} (same : records.Perm others) :
    usageOf records = usageOf others := by
  rw [usageOf_eq_foldl, usageOf_eq_foldl]
  exact same.foldl_eq' (fun first _ second _ usage => Record.noteUse_comm usage first second) {}

/-- **Noting uses in place is putting them together.** The use of a type, of a field or of a record,
noted in any usage, is that usage and the use alone put together. Putting together is associative,
commutative and idempotent, and nothing is its identity; so the records of a module may be visited
in any order, and each may note its use in place or apart. -/
theorem uses_merge :
    (∀ (usage : Usage) (type : FieldType), type.noteUse usage = usage.merge (type.noteUse {})) ∧
    (∀ (usage : Usage) (field : Field), field.noteUse usage = usage.merge (field.noteUse {})) ∧
    (∀ (usage : Usage) (record : Record), record.noteUse usage = usage.merge (record.noteUse {})) ∧
    (∀ first second third : Usage,
      (first.merge second).merge third = first.merge (second.merge third)) ∧
    (∀ first second : Usage, first.merge second = second.merge first) ∧
    (∀ usage : Usage, usage.merge usage = usage) ∧
    (∀ usage : Usage, ({} : Usage).merge usage = usage ∧ usage.merge {} = usage) ∧
    ∀ {records others : List Record}, records.Perm others →
      Schema.usageOf records = Schema.usageOf others ∧ ∀ usage : Usage,
        others.foldl Record.noteUse usage = usage.merge (Schema.usageOf records) := by
  refine ⟨FieldType.noteUse_eq_merge, Field.noteUse_eq_merge, Record.noteUse_eq_merge,
    Usage.merge_assoc, Usage.merge_comm, Usage.merge_self,
    fun usage => ⟨Usage.empty_merge usage, Usage.merge_empty usage⟩, ?_⟩
  intro records others same
  refine ⟨Schema.usageOf_perm same, fun usage => ?_⟩
  rw [Schema.usageOf_perm same, Schema.usageOf_eq_foldl]
  exact Usage.foldl_eq_merge Record.noteUse_eq_merge usage others

/-- A record of times in dictionaries and one with an optional field: whichever comes first, their
module uses what both of them use. -/
theorem stay_uses_merge :
    let stay : Record := ⟨"Stay", "Stay", "", false, [⟨"at", "at", .list (.dict .timestamp), .now⟩]⟩
    let guest : Record :=
      ⟨"Guest", "Guest", "", true, [⟨"of", "of_", .record "Guest", .optional none⟩,
        ⟨"id", "id", .enumeration "Id", .required⟩]⟩
    [stay, guest].Perm [guest, stay] ∧ Schema.usageOf [stay, guest] = Schema.usageOf [guest, stay] ∧
      [guest, stay].foldl Record.noteUse { opFieldWithDefault := true, arity := 1 } =
        { dict := true, opField := true, opFieldWithDefault := true, maybeObject := true,
          timestamp := true, enums := true, arity := 2 } := by
  intro stay guest
  have swapped : [stay, guest].Perm [guest, stay] := .swap guest stay []
  obtain ⟨same, inPlace⟩ := uses_merge.2.2.2.2.2.2.2 swapped
  exact ⟨swapped, same, inPlace { opFieldWithDefault := true, arity := 1 }⟩

end ElmCodec
