/-
**The order of the records of a module.**

The records of a schema come in the order of their names. In a module they stand in the order of
their type names in small letters, and where these are equal in that of the type names themselves;
no two records share a type name. The list of what a module exposes and what it defines are made one
after the other, and both follow this order.

* `Precedes`, `InOrder` — the order of type names, and names of records that stand in it.
* `InOrder.unique` — **there is one such order** of the names of a schema.
* `Schema.inOrder_of_sortedRecords` — the records of a module stand in it.
* `Schema.IsPiece` — what a module exposes and defines of a record.
* `Schema.records_inOrder` — **a module exposes and defines each record once, in this order.**
-/

import ElmCodec.Proofs.Codec.References

namespace ElmCodec

open Reading

/-! ### The order -/

/-- A text in small letters. -/
def smallLetters (text : String) : String := String.ofList (Text.lowerAll text.toList)

/-- **One type name stands before another**: in small letters, or if these are equal as it is. -/
def Precedes (first second : String) : Prop :=
  smallLetters first < smallLetters second ∨
    smallLetters first = smallLetters second ∧ first < second

instance (first second : String) : Decidable (Precedes first second) :=
  inferInstanceAs (Decidable (_ ∨ _ ∧ _))

theorem Precedes.irrefl (typeName : String) : ¬Precedes typeName typeName := by
  rintro (less | ⟨_, less⟩)
  · exact KeyOrder.irrefl _ less
  · exact KeyOrder.irrefl _ less

theorem Precedes.asymm {first second : String} (less : Precedes first second) :
    ¬Precedes second first := by
  rintro (greater | ⟨same, greater⟩)
  · rcases less with less | ⟨same, _⟩
    · exact KeyOrder.irrefl _ (KeyOrder.trans less greater)
    · rw [same] at greater
      exact KeyOrder.irrefl _ greater
  · rcases less with less | ⟨_, less⟩
    · rw [same] at less
      exact KeyOrder.irrefl _ less
    · exact KeyOrder.irrefl _ (KeyOrder.trans less greater)

/-- The place of a record in a module is that of its type name. -/
theorem Record.sortKey_lt_iff {first second : Record} :
    first.sortKey < second.sortKey ↔ Precedes first.typeName second.typeName := by
  have last : [first.typeName] < [second.typeName] ↔ first.typeName < second.typeName := by
    rw [List.cons_lt_cons_iff, or_iff_left fun both => List.not_lt_nil _ both.2]
  rw [sortKey, sortKey, List.cons_lt_cons_iff, last]
  rfl

/-- **Names of records in order**: all that are given, ascending by their type names. -/
structure InOrder (names order : List String) : Prop where
  complete : ∀ name, name ∈ order ↔ name ∈ names
  ascending : order.Pairwise fun first second =>
    Precedes (Elm.displayName first) (Elm.displayName second)

namespace InOrder

variable {names order other : List String}

theorem nodup (ordered : InOrder names order) : order.Nodup := by
  refine ordered.ascending.imp ?_
  rintro first _ below rfl
  exact Precedes.irrefl _ below

/-- **Names have one order.** -/
theorem unique (ordered : InOrder names order) (otherOrdered : InOrder names other) :
    other = order := by
  have antisymm : Std.Antisymm fun first second : String =>
      Precedes (Elm.displayName first) (Elm.displayName second) :=
    ⟨fun _ _ less greater => absurd greater less.asymm⟩
  have irrefl : Std.Irrefl fun first second : String =>
      Precedes (Elm.displayName first) (Elm.displayName second) :=
    ⟨fun _ => Precedes.irrefl _⟩
  exact otherOrdered.ascending.eq_of_mem_iff ordered.ascending fun name =>
    (otherOrdered.complete name).trans (ordered.complete name).symm

/-- The order does not depend on how the names were given. -/
theorem congr (ordered : InOrder names order) {others : List String}
    (same : ∀ name, name ∈ names ↔ name ∈ others) : InOrder others order :=
  ⟨fun name => (ordered.complete name).trans (same name), ordered.ascending⟩

end InOrder

/-! ### The records of a module -/

namespace Schema

/-- Sorted records ascend. -/
theorem sortedRecords_ascending {schema : Schema} {records : List Record}
    (sorted : schema.sortedRecords = .ok records) :
    records.Pairwise fun first second => Precedes first.typeName second.typeName := by
  obtain ⟨resolved, _, rfl⟩ := map_eq_ok_iff.mp sorted
  generalize places : OrderedMap.ofList (resolved.map fun record => (record.sortKey, record)) = map
  have placed : ∀ entry ∈ map.entries, entry.1 = entry.2.sortKey := by
    intro entry member
    rw [← places] at member
    obtain ⟨record, _, rfl⟩ := List.mem_map.mp (OrderedMap.mem_of_mem_ofList member)
    rfl
  rw [OrderedMap.values, List.pairwise_map]
  refine map.ascending.imp_of_mem fun {first second} firstMember secondMember below => ?_
  rw [placed first firstMember, placed second secondMember] at below
  exact Record.sortKey_lt_iff.mp below

/-- What a module holds of a record: entries in the list of what it exposes, and a body. -/
structure Piece where
  exports : List String
  body : String

/-- **The piece of a record.** The entries are its type, with its constructor if it has one, its
encoder and its decoder; the body has the definitions of these three, one after the other. -/
def IsPiece (schema : Schema) (name : String) (piece : Piece) : Prop :=
  ∃ decl record texts, schema.records.get? name = some decl ∧
    Record.resolve schema name decl = .ok record ∧ record.definitions schema = .ok texts ∧
    texts.mapM definedName = some (definedNames (Elm.displayName name)) ∧
    piece.exports = [Elm.displayName name ++ (if decl.selfReferencing then "(..)" else ""),
      encoderName (Elm.displayName name), decoderName (Elm.displayName name)] ∧
    piece.body = String.intercalate "\n\n" texts

/-- Records with their bodies are pieces, in the same order. -/
theorem exists_pieces {schema : Schema} {records : List Record} {bodies : List String}
    (each : List.Forall₂ (fun record body => record.render schema = .ok body) records bodies)
    (isPiece : ∀ record ∈ records, ∀ body, record.render schema = .ok body →
      schema.IsPiece record.name ⟨record.exports, body⟩) :
    ∃ pieces : List Piece, List.Forall₂ schema.IsPiece (records.map (·.name)) pieces ∧
      pieces.flatMap (·.exports) = records.flatMap Record.exports ∧
        pieces.map (·.body) = bodies := by
  induction each with
  | nil => exact ⟨[], .nil, rfl, rfl⟩
  | @cons record body records bodies first _ ih =>
    rw [List.forall_mem_cons] at isPiece
    obtain ⟨pieces, others, exports, rfl⟩ := ih isPiece.2
    refine ⟨⟨record.exports, body⟩ :: pieces, .cons (isPiece.1 body first) others, ?_, rfl⟩
    rw [List.flatMap_cons, List.flatMap_cons, exports]

section Built

variable {name version : String} {declarations : OrderedMap String RecordDecl} {schema : Schema}
variable {modules : ImportModules} {moduleName : String} {time : Int}
variable (built : build name version declarations = .ok schema)
include built

/-- **The records of a module** are the declared ones, in order. -/
theorem inOrder_of_sortedRecords {records : List Record}
    (sorted : schema.sortedRecords = .ok records) :
    InOrder declarations.keys (records.map (·.name)) where
  complete key := by
    rw [List.mem_map, exists_record_iff built sorted, declares_of_build built,
      OrderedMap.contains_iff_mem_keys]
  ascending := by
    rw [List.pairwise_map]
    refine (sortedRecords_ascending sorted).imp_of_mem fun {first second} inFirst inSecond below => ?_
    rw [← (declared_of_mem_sortedRecords built sorted inFirst).2,
      ← (declared_of_mem_sortedRecords built sorted inSecond).2]
    exact below

/-- The body of a record is that of its piece. -/
theorem isPiece_of_render {records : List Record} (sorted : schema.sortedRecords = .ok records)
    {record : Record} (member : record ∈ records) {body : String}
    (rendered : record.render schema = .ok body) :
    schema.IsPiece record.name ⟨record.exports, body⟩ := by
  obtain ⟨texts, defined, rfl⟩ := Record.render_eq_ok_iff.mp rendered
  obtain ⟨key, decl, found, resolved⟩ := (mem_sortedRecords_iff built sorted).mp member
  have names := Record.definedName_definitions (typeName_of_mem_sortedRecords built sorted member)
    (Record.description_clean built found resolved) defined
  obtain rfl := Record.name_eq resolved
  have typeName := Record.typeName_eq resolved
  have exposed : record.exposedType =
      Elm.displayName record.name ++ (if decl.selfReferencing then "(..)" else "") := by
    rw [Record.exposedType, Record.selfReferencing_eq resolved, typeName]
    cases decl.selfReferencing with
    | false => exact String.append_empty.symm
    | true => rfl
  refine ⟨decl, record, texts, found, resolved, defined, typeName ▸ names, ?_, rfl⟩
  rw [← exposed, ← typeName]
  rfl

/-- The names that a module exposes are those of its records, in their order. -/
theorem exposedNames_of_order {text : String}
    (emitted : schema.emit modules moduleName time = .ok text) :
    ∃ records, schema.sortedRecords = .ok records ∧
      exposedNames text =
        some ((records.map (·.name)).flatMap fun name => definedNames (Elm.displayName name)) := by
  obtain ⟨records, bodies, sorted, _, rfl, validModule, nonempty⟩ :=
    sortedRecords_of_emit built emitted
  refine ⟨records, sorted, ?_⟩
  rw [exposedNames_assemble validModule nonempty fun record member =>
    typeName_of_mem_sortedRecords built sorted member, List.flatMap_map, List.flatMap_map]
  refine congrArg some (List.flatMap_congr fun record member => ?_)
  rw [(declared_of_mem_sortedRecords built sorted member).2]

/-- **A module exposes and defines each record once, in one order.** The order ascends by the type
names in small letters, and by the type names themselves; no other order of the names of the records
does. What the module exposes and what follows its imports are made of the pieces of the records in
this order. The names that a module exposes are the same for all schemas with these records. -/
theorem records_inOrder {text : String}
    (emitted : schema.emit modules moduleName time = .ok text) :
    ∃ order pieces, InOrder declarations.keys order ∧ order.Nodup ∧
      (∀ other, InOrder declarations.keys other → other = order) ∧
      List.Forall₂ schema.IsPiece order pieces ∧
      exportEntries text = some (pieces.flatMap (·.exports)) ∧
      text = Record.unlines (("module " ++ moduleName ++ " exposing") ::
          Record.leadLines "    " "(" (pieces.flatMap (·.exports)) ++ ["    )"]) ++ "\n" ++
        schema.header time ++ "\n" ++ String.intercalate "\n" (schema.importLines modules) ++
        "\n\n\n" ++ String.intercalate "\n\n" (pieces.map (·.body)) ∧
      ∀ otherName otherVersion otherDeclarations otherSchema,
        build otherName otherVersion otherDeclarations = .ok otherSchema →
        (∀ key, key ∈ otherDeclarations.keys ↔ key ∈ declarations.keys) →
        ∀ otherModules otherModule otherTime otherText,
          otherSchema.emit otherModules otherModule otherTime = .ok otherText →
            exposedNames otherText = exposedNames text := by
  obtain ⟨records, bodies, sorted, rendered, same, validModule, nonempty⟩ :=
    sortedRecords_of_emit built emitted
  obtain ⟨_, inhabited, _⟩ := emit_eq_ok_iff.mp emitted
  have ordered := inOrder_of_sortedRecords built sorted
  obtain ⟨pieces, each, exports, rfl⟩ := exists_pieces (mapM_eq_ok_iff.mp rendered)
    fun record member body => isPiece_of_render built sorted member
  refine ⟨records.map (·.name), pieces, ordered, ordered.nodup, fun other => ordered.unique,
    each, ?_, ?_, ?_⟩
  · rw [← same, exports]
    exact exportEntries_assemble validModule nonempty fun record member =>
      typeName_of_mem_sortedRecords built sorted member
  · rw [← same, exports, assemble, declarationLines, renderImports,
      render_importsFor built sorted inhabited modules]
  · intro otherName otherVersion otherDeclarations otherSchema otherBuilt sameKeys otherModules
      otherModule otherTime otherText otherEmitted
    obtain ⟨others, otherSorted, otherExposed⟩ := exposedNames_of_order otherBuilt otherEmitted
    obtain ⟨_, sorted', exposed⟩ := exposedNames_of_order built emitted
    obtain rfl := Except.ok.inj (sorted.symm.trans sorted')
    rw [otherExposed, exposed,
      ((inOrder_of_sortedRecords otherBuilt otherSorted).congr sameKeys).unique ordered]

end Built

/-- Records whose type names `AB` and `Ab` differ in case only; the names of the records come in
another order than these. -/
theorem records_inOrder_letters :
    ∃ schema text pieces, build "letters" "1" (fieldless ["Zeta", "Ab", "a.b"]) = .ok schema ∧
      schema.emit {} "Letters" 0 = .ok text ∧ schema.records.keys = ["Ab", "Zeta", "a.b"] ∧
      List.Forall₂ schema.IsPiece ["a.b", "Ab", "Zeta"] pieces ∧
      exportEntries text = some (pieces.flatMap (·.exports)) := by
  have built : build "letters" "1" (fieldless ["Zeta", "Ab", "a.b"]) =
    .ok ⟨"letters", "1", fieldless ["Zeta", "Ab", "a.b"]⟩ := rfl
  obtain ⟨text, emitted⟩ : ∃ text, emit ⟨"letters", "1", fieldless ["Zeta", "Ab", "a.b"]⟩ {}
    "Letters" 0 = .ok text := ⟨_, rfl⟩
  have keys : (fieldless ["Zeta", "Ab", "a.b"]).keys = ["Ab", "Zeta", "a.b"] := by decide +kernel
  have ordered : InOrder (fieldless ["Zeta", "Ab", "a.b"]).keys ["a.b", "Ab", "Zeta"] :=
    ⟨fun key => by rw [keys]; exact (by decide : ["a.b", "Ab", "Zeta"].Perm _).mem_iff,
      by decide +kernel⟩
  obtain ⟨order, pieces, _, _, only, each, exports, _⟩ := records_inOrder built emitted
  obtain rfl := only _ ordered
  exact ⟨_, text, pieces, built, emitted, keys, each, exports⟩

end Schema

end ElmCodec
