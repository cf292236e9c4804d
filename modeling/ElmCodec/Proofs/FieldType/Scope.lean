/-
**The names that a type may use.**

A type is in scope when every record in it is declared and every enumeration has a type name.

* `inScope_of_parse` — a type that is read from a text is in scope.
* `decoder_isOk` — a type in scope has a decoder.
-/

import ElmCodec.FieldType.Elm
import ElmCodec.Proofs.Outcome

namespace ElmCodec

namespace FieldType

variable {declares : String → Bool}

/-- Every record in a type is declared, and every enumeration has a type name. -/
def InScope (declares : String → Bool) : FieldType → Prop
  | record name => declares name = true
  | enumeration name => Elm.isTypeName name = true
  | list element | dict element => element.InScope declares
  | bool | int | string | float | timestamp | value => True

theorem inScope_of_parseName {token : List Char} {type : FieldType}
    (parsed : parseName token = .ok type) : type.InScope declares := by
  unfold parseName at parsed
  split at parsed
  · split at parsed
    · next valid =>
      cases parsed
      exact valid
    · cases parsed
  · split at parsed <;> cases parsed <;> trivial

theorem inScope_of_parseWithin (depth : Nat) {cs : List Char} {type : FieldType}
    (parsed : parseWithin declares depth cs = .ok type) : type.InScope declares := by
  induction depth generalizing cs type with
  | zero => exact inScope_of_parseName parsed
  | succ depth ih =>
    simp only [parseWithin] at parsed
    split at parsed
    · obtain ⟨element, inner, rfl⟩ := map_eq_ok_iff.mp parsed
      show element.InScope declares
      exact ih inner
    · split at parsed
      · obtain ⟨element, inner, rfl⟩ := map_eq_ok_iff.mp parsed
        show element.InScope declares
        exact ih inner
      · split at parsed
        · next declared =>
          cases parsed
          exact declared
        · exact inScope_of_parseName parsed

/-- **A type that is read from a text is in scope.** -/
theorem inScope_of_parse {text : String} {type : FieldType}
    (parsed : parse declares text = .ok type) : type.InScope declares :=
  inScope_of_parseWithin _ parsed

/-- **A type in scope has a decoder.** -/
theorem decoder_isOk {schema : Schema} {type : FieldType} (inScope : type.InScope schema.declares) :
    ∃ text, type.decoder schema = .ok text := by
  induction type with
  | record name =>
    obtain ⟨decl, found⟩ := Option.isSome_iff_exists.mp inScope
    exact ⟨recordDecoder name decl, by rw [decoder, found]⟩
  | list element ih | dict element ih =>
    obtain ⟨text, decoded⟩ := ih inScope
    exact ⟨_, by rw [decoder, decoded]; rfl⟩
  | bool | int | string | float | timestamp | value | enumeration _ => exact ⟨_, rfl⟩

end FieldType

end ElmCodec
