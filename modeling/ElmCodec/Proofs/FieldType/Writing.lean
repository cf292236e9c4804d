/-
**Types written as expressions.**

The name of a type, its encoder and its decoder are written alike: a container is a function of its
element, a word has a name of its own, and an enumeration or a record has a name that is made from
its type name. Each of the three texts is read back as the expression that it was written for, so
two types have one text only if they have one expression; and that needs a record that is called
what a word is called.

* `Writing`, `Writing.expr` — a way to write types, and the expression of a type.
* `Writing.Lawful` — names that are told apart; `Writing.Lawful.expr_injOn` — **different types have
  different expressions** if no record imitates a word.
* `Writing.Writes` — texts that are written so; `Writing.Writes.exists_text` — **reading them
  back**.
* `Writing.names`, `Writing.encoders`, `Writing.decoders` — the three ways, and that they are lawful
  and that the three texts are written so.
-/

import ElmCodec.Proofs.Codec.Coherence
import ElmCodec.Proofs.FieldType.Grammar

namespace ElmCodec

open Reading
open FieldType (Container words enumerationStart)

/-! ### Ways to write types -/

/-- **A way to write types.** -/
structure Writing where
  /-- The function of a container. -/
  container : Container → Expr
  /-- The name of a word. -/
  word : FieldType → String
  /-- The name of an enumeration or a record, from its type name. -/
  named : String → String
  /-- The records that are referred to lazily. -/
  lazily : String → Bool

namespace Writing

/-- The expression of a record. -/
def reference (writing : Writing) (name : String) : Expr :=
  let reference := Expr.name (writing.named (Elm.displayName name))
  if writing.lazily name then .apply (.name "D.lazy") (.ignoring reference) else reference

/-- **The expression of a type.** -/
def expr (writing : Writing) : FieldType → Expr
  | .list element => .apply (writing.container .list) (writing.expr element)
  | .dict element => .apply (writing.container .dict) (writing.expr element)
  | .enumeration name => .name (enumerationStart ++ writing.named name)
  | .record name => writing.reference name
  | word => .name (writing.word word)

/-- **Names that are told apart.** -/
structure Lawful (writing : Writing) : Prop where
  containers : writing.container .list ≠ writing.container .dict
  eager : ∀ container, writing.container container ≠ .name "D.lazy"
  wordsDiffer : ∀ first ∈ words, ∀ second ∈ words, writing.word first = writing.word second →
    first = second
  notEnumeration : ∀ word ∈ words, ¬enumerationStart.toList <+: (writing.word word).toList
  named : ∀ {first second}, Elm.isTypeName first = true → Elm.isTypeName second = true →
    writing.named first = writing.named second → first = second
  unqualified : ∀ {typeName}, Elm.isTypeName typeName = true →
    '.' ∉ (writing.named typeName).toList

/-- A record is written as a word. -/
def Imitates (writing : Writing) (name : String) (word : FieldType) : Prop :=
  writing.word word = writing.named (Elm.displayName name) ∧ writing.lazily name = false

end Writing

/-- A type is a word, an enumeration, a record or a container. -/
theorem FieldType.cases (type : FieldType) :
    type ∈ words ∨ (∃ name, type = .enumeration name) ∨ (∃ name, type = .record name) ∨
      ∃ (container : Container) (element : FieldType), type = container.of element := by
  cases type with
  | bool | int | string | float | timestamp | value => exact .inl (by decide)
  | enumeration name => exact .inr (.inl ⟨name, rfl⟩)
  | record name => exact .inr (.inr (.inl ⟨name, rfl⟩))
  | list element => exact .inr (.inr (.inr ⟨.list, element, rfl⟩))
  | dict element => exact .inr (.inr (.inr ⟨.dict, element, rfl⟩))

@[simp] theorem FieldType.inScope_of {declares : String → Bool} (container : Container)
    (element : FieldType) :
    (container.of element).InScope declares ↔ element.InScope declares := by
  cases container <;> rfl

/-! ### Different types -/

namespace Writing

variable {writing : Writing} {first second type word : FieldType}

theorem expr_of (writing : Writing) (container : Container) (element : FieldType) :
    writing.expr (container.of element) =
      .apply (writing.container container) (writing.expr element) := by
  cases container <;> rfl

theorem expr_word (writing : Writing) (member : word ∈ words) :
    writing.expr word = .name (writing.word word) := by
  simp only [words, List.mem_cons, List.not_mem_nil, or_false] at member
  rcases member with rfl | rfl | rfl | rfl | rfl | rfl <;> rfl

theorem expr_record (writing : Writing) (name : String) :
    writing.expr (.record name) = .name (writing.named (Elm.displayName name)) ∧
        writing.lazily name = false ∨
      writing.expr (.record name) = .apply (.name "D.lazy")
          (.ignoring (.name (writing.named (Elm.displayName name)))) ∧
        writing.lazily name = true := by
  show writing.reference name = _ ∧ _ ∨ writing.reference name = _ ∧ _
  unfold reference
  cases writing.lazily name <;> simp

namespace Lawful

variable (lawful : writing.Lawful)
include lawful

/-- What is written as a container is one. -/
theorem exists_of_expr_of (container : Container) {element : FieldType}
    (same : writing.expr (container.of element) = writing.expr type) :
    ∃ other, type = container.of other ∧ writing.expr element = writing.expr other := by
  rw [expr_of] at same
  rcases type.cases with word | ⟨name, rfl⟩ | ⟨name, rfl⟩ | ⟨other, element', rfl⟩
  · rw [writing.expr_word word] at same
    cases same
  · cases same
  · rcases writing.expr_record name with ⟨eager, _⟩ | ⟨lazily, _⟩
    · rw [eager] at same
      cases same
    · rw [lazily] at same
      exact absurd (Expr.apply.inj same).1 (lawful.eager container)
  · rw [expr_of] at same
    obtain ⟨functions, elements⟩ := Expr.apply.inj same
    have equal : container = other := by
      cases container <;> cases other
      · rfl
      · exact absurd functions lawful.containers
      · exact absurd functions.symm lawful.containers
      · rfl
    exact ⟨element', by rw [equal], elements⟩

theorem word_ne_enumeration {name : String} (member : word ∈ words) :
    writing.expr word ≠ writing.expr (.enumeration name) := by
  rw [writing.expr_word member]
  intro same
  have equal := Expr.name.inj same
  exact lawful.notEnumeration word member (by rw [equal, String.toList_append]; exact ⟨_, rfl⟩)

theorem record_ne_enumeration {name other : String}
    (valid : Elm.isTypeName (Elm.displayName name) = true) :
    writing.expr (.record name) ≠ writing.expr (.enumeration other) := by
  intro same
  rcases writing.expr_record name with ⟨eager, _⟩ | ⟨lazily, _⟩
  · have equal := Expr.name.inj (eager.symm.trans same)
    have point : '.' ∈ (writing.named (Elm.displayName name)).toList := by
      rw [equal, String.toList_append]
      exact List.mem_append_left _ (by decide)
    exact lawful.unqualified valid point
  · cases lazily.symm.trans same

omit lawful in
theorem imitates_of_expr_eq {name : String} (member : word ∈ words)
    (same : writing.expr word = writing.expr (.record name)) : writing.Imitates name word := by
  rw [writing.expr_word member] at same
  rcases writing.expr_record name with ⟨eager, forced⟩ | ⟨lazily, _⟩
  · exact ⟨Expr.name.inj (same.trans eager), forced⟩
  · cases same.trans lazily

theorem displayName_eq {name other : String}
    (valid : Elm.isTypeName (Elm.displayName name) = true)
    (valid' : Elm.isTypeName (Elm.displayName other) = true)
    (same : writing.expr (.record name) = writing.expr (.record other)) :
    Elm.displayName name = Elm.displayName other := by
  rcases writing.expr_record name with ⟨first, _⟩ | ⟨first, _⟩ <;>
    rcases writing.expr_record other with ⟨second, _⟩ | ⟨second, _⟩ <;> rw [first, second] at same
  · exact lawful.named valid valid' (Expr.name.inj same)
  · cases same
  · cases same
  · exact lawful.named valid valid' (Expr.name.inj (Expr.ignoring.inj (Expr.apply.inj same).2))

variable {declares : String → Bool}
variable (valid : ∀ name, declares name = true → Elm.isTypeName (Elm.displayName name) = true)
variable (distinct : ∀ name other, declares name = true → declares other = true →
  Elm.displayName name = Elm.displayName other → name = other)
variable (unlike : ∀ name, declares name = true → ∀ word ∈ words, ¬writing.Imitates name word)
include valid distinct unlike

/-- Different types that are no containers have different expressions. -/
theorem expr_injOn_leaf (inScope : first.InScope declares) (inScope' : second.InScope declares)
    (bare : ∀ (container : Container) (element : FieldType), first ≠ container.of element)
    (same : writing.expr first = writing.expr second) : first = second := by
  have bare' : ∀ (container : Container) (element : FieldType), second ≠ container.of element := by
    rintro container element rfl
    obtain ⟨other, whole, _⟩ := lawful.exists_of_expr_of container same.symm
    exact bare container other whole
  rcases first.cases with word | ⟨name, rfl⟩ | ⟨name, rfl⟩ | ⟨container, element, whole⟩
  · rcases second.cases with word' | ⟨name, rfl⟩ | ⟨name, rfl⟩ | ⟨container, element, whole⟩
    · rw [writing.expr_word word, writing.expr_word word'] at same
      exact lawful.wordsDiffer _ word _ word' (Expr.name.inj same)
    · exact absurd same (lawful.word_ne_enumeration word)
    · exact absurd (imitates_of_expr_eq word same) (unlike name inScope' first word)
    · exact absurd whole (bare' container element)
  · rcases second.cases with word' | ⟨other, rfl⟩ | ⟨other, rfl⟩ | ⟨container, element, whole⟩
    · exact absurd same.symm (lawful.word_ne_enumeration word')
    · have equal := congrArg String.toList (Expr.name.inj same)
      rw [String.toList_append, String.toList_append] at equal
      rw [lawful.named inScope inScope' (String.toList_inj.mp (List.append_cancel_left equal))]
    · exact absurd same.symm (lawful.record_ne_enumeration (valid other inScope'))
    · exact absurd whole (bare' container element)
  · rcases second.cases with word' | ⟨other, rfl⟩ | ⟨other, rfl⟩ | ⟨container, element, whole⟩
    · exact absurd (imitates_of_expr_eq word' same.symm) (unlike name inScope second word')
    · exact absurd same (lawful.record_ne_enumeration (valid name inScope))
    · rw [distinct name other inScope inScope'
        (lawful.displayName_eq (valid name inScope) (valid other inScope') same)]
    · exact absurd whole (bare' container element)
  · exact absurd whole (bare container element)

/-- **Different types have different expressions**, in containers of any depth, if no record
imitates a word. -/
theorem expr_injOn (inScope : first.InScope declares) (inScope' : second.InScope declares)
    (same : writing.expr first = writing.expr second) : first = second := by
  induction first generalizing second with
  | list element ih =>
    obtain ⟨other, rfl, elements⟩ := lawful.exists_of_expr_of .list same
    rw [ih inScope ((FieldType.inScope_of .list other).mp inScope') elements]
    rfl
  | dict element ih =>
    obtain ⟨other, rfl, elements⟩ := lawful.exists_of_expr_of .dict same
    rw [ih inScope ((FieldType.inScope_of .dict other).mp inScope') elements]
    rfl
  | bool | int | string | float | timestamp | value | enumeration _ | record _ =>
    exact lawful.expr_injOn_leaf valid distinct unlike inScope inScope'
      (by rintro (_ | _) _ <;> exact nofun) same

end Lawful

/-! ### Texts -/

/-- **Texts that are written so.** -/
structure Writes (writing : Writing) (schema : Schema)
    (render : FieldType → Except SchemaError String) : Prop where
  word : ∀ word ∈ words,
    render word = .ok (writing.word word) ∧ isQualified (writing.word word) = true
  named : ∀ {typeName}, Elm.isTypeName typeName = true →
    isQualified (writing.named typeName) = true
  enumeration : ∀ name, render (.enumeration name) = .ok (enumerationStart ++ writing.named name)
  record : ∀ {name}, schema.declares name = true → ∃ text, render (.record name) = .ok text ∧
    Term text (writing.reference name) ∧
      (writing.lazily name = false → text = writing.named (Elm.displayName name))
  container : ∀ container : Container, ∃ function, Chain function (writing.container container) ∧
    ∀ element, render (container.of element) =
      (render element).map fun inner => function ++ " " ++ Elm.argument inner

namespace Writes

variable {schema : Schema} {render : FieldType → Except SchemaError String}
variable (writes : writing.Writes schema render)
include writes

theorem exists_term_of (container : Container) {element : FieldType} {inner : String}
    (rendered : render element = .ok inner) (term : Term inner (writing.expr element)) :
    ∃ text, render (container.of element) = .ok text ∧
      Term text (writing.expr (container.of element)) := by
  obtain ⟨function, chain, renders⟩ := writes.container container
  refine ⟨_, by rw [renders, rendered]; rfl, ?_⟩
  rw [expr_of]
  exact (chain.apply term.argument).term

theorem exists_term_word (member : word ∈ words) :
    ∃ text, render word = .ok text ∧ Term text (writing.expr word) := by
  obtain ⟨rendered, qualified⟩ := writes.word word member
  rw [expr_word writing member]
  exact ⟨_, rendered, term_name qualified⟩

theorem exists_term (inScope : type.InScope schema.declares) :
    ∃ text, render type = .ok text ∧ Term text (writing.expr type) := by
  induction type with
  | bool | int | string | float | timestamp | value =>
    exact writes.exists_term_word (by decide)
  | enumeration name =>
    have qualified := writes.named (show Elm.isTypeName name = true from inScope)
    exact ⟨_, writes.enumeration name, term_name (isQualified_append (by decide) qualified)⟩
  | record name =>
    obtain ⟨text, rendered, term, _⟩ := writes.record inScope
    exact ⟨text, rendered, term⟩
  | list element ih =>
    obtain ⟨inner, rendered, term⟩ := ih inScope
    exact writes.exists_term_of .list rendered term
  | dict element ih =>
    obtain ⟨inner, rendered, term⟩ := ih inScope
    exact writes.exists_term_of .dict rendered term

/-- **The text of a type** is read back as its expression. -/
theorem exists_text (inScope : type.InScope schema.declares) :
    ∃ text, render type = .ok text ∧ readExpression text = some (writing.expr type) := by
  obtain ⟨text, rendered, term⟩ := writes.exists_term inScope
  exact ⟨text, rendered, term.chain.whole.readExpression_eq⟩

end Writes

/-! ### The three ways -/

/-- How names of types are written. -/
def names : Writing where
  container
    | .list => .name "List"
    | .dict => .apply (.name "Dict") (.name "String")
  word := FieldType.elmName
  named := id
  lazily _ := false

/-- How encoders are written. -/
def encoders : Writing where
  container
    | .list => .name "E.list"
    | .dict => .apply (.name "E.dict") (.name "identity")
  word := FieldType.encoder
  named := encoderName
  lazily _ := false

/-- The decoder of a word. -/
def decoderWord : FieldType → String
  | .bool => "D.bool"
  | .int => "D.int"
  | .string => "D.string"
  | .float => "D.float"
  | .timestamp => "timestampDecoder"
  | .value => "D.value"
  | _ => ""

/-- How decoders are written. -/
def decoders (schema : Schema) : Writing where
  container
    | .list => .name "D.list"
    | .dict => .name "D.dict"
  word := decoderWord
  named := decoderName
  lazily name := (schema.records.get? name).any (·.selfReferencing)

theorem names_lawful : names.Lawful where
  containers := nofun
  eager container := by cases container <;> decide
  wordsDiffer := by decide
  notEnumeration := by decide
  named _ _ same := same
  unqualified valid := Elm.not_mem_typeName rfl valid

theorem encoders_lawful : encoders.Lawful where
  containers := nofun
  eager container := by cases container <;> decide
  wordsDiffer := by decide
  notEnumeration := by decide
  named _ _ same := Elm.encoderName_injective same
  unqualified valid := Elm.not_mem_valueName rfl (Elm.isValueName_encoderName valid)

theorem decoders_lawful (schema : Schema) : (decoders schema).Lawful where
  containers := show Expr.name "D.list" ≠ .name "D.dict" by decide
  eager container := by cases container <;> exact Expr.name.inj.mt (by decide)
  wordsDiffer := show ∀ first ∈ words, ∀ second ∈ words, decoderWord first = decoderWord second →
    first = second by decide
  notEnumeration := show ∀ word ∈ words,
    ¬enumerationStart.toList <+: (decoderWord word).toList by decide
  named valid valid' same := Elm.decoderName_injOn valid valid' same
  unqualified valid := Elm.not_mem_valueName rfl (Elm.isValueName_decoderName valid)

section Texts

variable {schema : Schema} (wellNamed : schema.WellNamed)
include wellNamed

/-- **Names of types** are written so. -/
theorem names_writes : names.Writes schema fun type => .ok type.elmName where
  word word member :=
    ⟨rfl, (by decide : ∀ word ∈ words, isQualified word.elmName = true) word member⟩
  named valid := isQualified_of_isTypeName valid
  enumeration name := rfl
  record declared := ⟨_, rfl, term_name (isQualified_of_isTypeName (wellNamed _ declared)),
    fun _ => rfl⟩
  container
    | .list => ⟨"List", (argument_name "List" (by decide)).chain, fun element => rfl⟩
    | .dict => ⟨"Dict" ++ " " ++ "String", (argument_name "Dict" (by decide)).chain.apply
        (argument_name "String" (by decide)), fun element => rfl⟩

/-- **Encoders** are written so. -/
theorem encoders_writes : encoders.Writes schema fun type => .ok type.encoder where
  word word member :=
    ⟨rfl, (by decide : ∀ word ∈ words, isQualified word.encoder = true) word member⟩
  named valid := isQualified_of_isValueName (Elm.isValueName_encoderName valid)
  enumeration name := rfl
  record declared := ⟨_, rfl, term_name (isQualified_of_isValueName
    (Elm.isValueName_encoderName (wellNamed _ declared))), fun _ => rfl⟩
  container
    | .list => ⟨"E.list", (argument_name "E.list" (by decide)).chain, fun element => rfl⟩
    | .dict => ⟨"E.dict" ++ " " ++ "identity", (argument_name "E.dict" (by decide)).chain.apply
        (argument_name "identity" (by decide)), fun element => rfl⟩

/-- **Decoders** are written so. -/
theorem decoders_writes : (decoders schema).Writes schema (·.decoder schema) where
  word word member := by
    refine ⟨?_, (by decide : ∀ word ∈ words, isQualified (decoderWord word) = true) word member⟩
    simp only [words, List.mem_cons, List.not_mem_nil, or_false] at member
    rcases member with rfl | rfl | rfl | rfl | rfl | rfl <;> rfl
  named valid := isQualified_of_isValueName (Elm.isValueName_decoderName valid)
  enumeration name := rfl
  record {name} declared := by
    obtain ⟨decl, found⟩ := Option.isSome_iff_exists.mp declared
    have lazily : (decoders schema).lazily name = decl.selfReferencing := by
      show (schema.records.get? name).any _ = _
      rw [found]
      rfl
    have reference : (decoders schema).reference name = FieldType.recordReference name decl := by
      unfold reference FieldType.recordReference
      rw [lazily]
      rfl
    refine ⟨FieldType.recordDecoder name decl, by rw [FieldType.decoder, found], ?_, ?_⟩
    · rw [reference]
      exact FieldType.term_recordReference decl (wellNamed name declared)
    · rw [lazily]
      intro eager
      rw [FieldType.recordDecoder, eager]
      rfl
  container
    | .list => ⟨"D.list", (argument_name "D.list" (by decide)).chain, fun element => rfl⟩
    | .dict => ⟨"D.dict", (argument_name "D.dict" (by decide)).chain, fun element => rfl⟩

end Texts

end Writing

end ElmCodec
