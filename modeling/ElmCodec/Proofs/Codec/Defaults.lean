/-
**Defaults in decoders.**

The decoder of an optional field with a default is an application of `opFieldWithDefault` to the
key, the default and the decoder of the type. The default of a document is a truth value, a number
or a text; a text is taken over as an expression. It gets parentheses if it has a space, so one with
a tab or a line end and without any space is no longer one argument.

* `Field.decoder_of_default` — **where the default stands** in the decoder.
* `Field.default_single_iff` — **a default with matching parentheses is one argument** unless blank
  characters, none of them a space, stand outside of them.
* `Schema.numberDefaults_iff` — **the numbers of a document** are written as Elm reads them exactly
  when they are finite.
-/

import ElmCodec.Proofs.Elm.Parentheses
import ElmCodec.Proofs.Schema.Documents
import ElmCodec.Proofs.Yaml.Numbers

namespace ElmCodec

open ElmCodec.Yaml (Number)

/-! ### The place of a default -/

/-- **A default stands behind the key**, as one argument, and before the decoder of the type. -/
theorem Field.decoder_of_default {schema : Schema} {key : String} {decl : FieldDecl} {field : Field}
    {default : Default} (resolved : Field.resolve schema key decl = .ok field)
    (optional : decl.presence = .optional (some default)) :
    ∃ decoder, field.type.decoder schema = .ok decoder ∧
      field.decoder schema = .ok ("opFieldWithDefault " ++ Elm.stringLiteral key ++ " " ++
        Elm.argument default.toElm ++ " " ++ Elm.argument decoder) := by
  obtain ⟨decoder, decoded⟩ := FieldType.decoder_isOk (inScope_of_resolve resolved).type
  obtain ⟨_, type, _, rfl⟩ := resolve_eq_ok_iff.mp resolved
  refine ⟨decoder, decoded, ?_⟩
  rw [Field.decoder, lookup?, optional, decoded]
  rfl

/-! ### One argument -/

/-- **A default is one argument.** Whatever stands between the key and the decoder of the type has
matching parentheses if the default has. No blank character stands outside of them, exactly unless
one does in the default, which has no space. -/
theorem Field.default_single_iff {schema : Schema} {key : String} {decl : FieldDecl} {field : Field}
    {default : Default} (resolved : Field.resolve schema key decl = .ok field)
    (optional : decl.presence = .optional (some default))
    (balanced : Elm.Balanced default.toElm.toList) :
    ∃ given decoder, field.type.decoder schema = .ok decoder ∧
      field.decoder schema = .ok ("opFieldWithDefault " ++ Elm.stringLiteral key ++ " " ++ given ++
        " " ++ Elm.argument decoder) ∧
      Elm.Balanced given.toList ∧
      (¬Elm.HasOuterBlank given.toList ↔
        (Elm.HasOuterBlank default.toElm.toList → ' ' ∈ default.toElm.toList)) := by
  obtain ⟨decoder, decoded, text⟩ := decoder_of_default resolved optional
  refine ⟨_, decoder, decoded, text, Elm.balanced_argument balanced, ?_⟩
  rw [Elm.hasOuterBlank_argument_iff balanced, not_and_not_right]

/-- A whole number with a default. -/
def counterDecl (default : Default) : FieldDecl := ⟨"int", .optional (some default)⟩

/-- A schema with one such field. -/
def counterSchema (default : Default) : Schema :=
  ⟨"n", "1", .ofList [("A", { description := "", fields := .ofList [("k", counterDecl default)]
                              breaksRecursion := false })]⟩

/-- The document of such a schema, given the text of the default. -/
def counterDocument (default : String) : String :=
  "\x7bname: n,version: 1,objects: \x7bA: \x7bfields: \x7bk: \x7btype: int,default: " ++ default ++
    "\x7d\x7d\x7d\x7d\x7d"

/-- The field of such a schema. -/
def counterField (default : Default) : Field := ⟨"k", "k", .int, .optional (some default)⟩

/-- A default with a line end and a space is in parentheses, and so is the line end. -/
theorem spaced_default_single :
    ∃ given, Field.resolve (counterSchema (.expression "max 1\n(2)")) "k"
        (counterDecl (.expression "max 1\n(2)")) = .ok (counterField (.expression "max 1\n(2)")) ∧
      Elm.Balanced (Default.expression "max 1\n(2)").toElm.toList ∧
      (counterField (.expression "max 1\n(2)")).decoder
          (counterSchema (.expression "max 1\n(2)")) =
        .ok ("opFieldWithDefault " ++ Elm.stringLiteral "k" ++ " " ++ given ++ " " ++
          Elm.argument "D.int") ∧
      Elm.Balanced given.toList ∧ ¬Elm.HasOuterBlank given.toList := by
  have balanced : Elm.Balanced (Default.expression "max 1\n(2)").toElm.toList := by decide +kernel
  have resolved : Field.resolve (counterSchema (.expression "max 1\n(2)")) "k"
      (counterDecl (.expression "max 1\n(2)")) = .ok (counterField (.expression "max 1\n(2)")) := by
    decide +kernel
  obtain ⟨given, decoder, decoded, text, matching, single⟩ :=
    Field.default_single_iff resolved rfl balanced
  obtain rfl : "D.int" = decoder := Except.ok.inj decoded
  exact ⟨given, resolved, balanced, text, matching, single.mpr fun _ => by decide⟩

/-- **A default with a tab and no space** is taken over as it stands, and the decoder of its field
has one argument too many. -/
theorem tabbed_default_splits :
    Schema.ofYaml (counterDocument "\"negate\\t1\"") =
        .ok (counterSchema (.expression "negate\t1")) ∧
      Field.resolve (counterSchema (.expression "negate\t1")) "k"
        (counterDecl (.expression "negate\t1")) = .ok (counterField (.expression "negate\t1")) ∧
      (counterField (.expression "negate\t1")).decoder (counterSchema (.expression "negate\t1")) =
        .ok ("opFieldWithDefault \"k\" " ++ "negate\t1" ++ " D.int") ∧
      Elm.Balanced "negate\t1".toList ∧ Elm.HasOuterBlank "negate\t1".toList :=
  ⟨by decide +kernel, by decide +kernel, by decide +kernel, by decide +kernel,
    "negate".toList, '\t', ['1'], by decide, by decide, by decide⟩

/-! ### Numbers -/

/-- What a document gives as the default of an optional field. -/
def Draft.default? (draft : Draft) (record key : String) : Option Yaml.Value :=
  (draft.records.get? record).bind fun found => (found.fields.get? key).bind fun field =>
    match field.required with
    | .flag false => field.default
    | _ => none

/-- The field with a default that a document gives. -/
theorem Draft.default?_eq_some {draft : Draft} {record key : String} {value : Yaml.Value}
    (given : draft.default? record key = some value) :
    ∃ found field, draft.records.get? record = some found ∧ found.fields.get? key = some field ∧
      field.required = .flag false ∧ field.default = some value := by
  obtain ⟨found, recordFound, later⟩ := Option.bind_eq_some_iff.mp given
  obtain ⟨field, fieldFound, marked⟩ := Option.bind_eq_some_iff.mp later
  split at marked
  · next required => exact ⟨found, field, recordFound, fieldFound, required, marked⟩
  · cases marked

/-- **The numbers of a document are numbers of Elm** exactly when they are finite. An optional field
whose default is a number has the number, as it is written back, for its default, and the decoder of
the field takes it over as it is. -/
theorem Schema.numberDefaults_iff {source : String} {schema : Schema}
    (read : ofYaml source = .ok schema) :
    ∃ draft, Draft.parse? source = some draft ∧
      ∀ record key number, draft.default? record key = some (.number number) →
        ∃ decl field, schema.records.get? record = some decl ∧ decl.fields.get? key = some field ∧
          field.presence = .optional (some (.number number.render)) ∧
          (∀ resolved, Field.resolve schema key field = .ok resolved →
            ∃ decoder, resolved.type.decoder schema = .ok decoder ∧
              resolved.decoder schema = .ok ("opFieldWithDefault " ++ Elm.stringLiteral key ++ " " ++
                number.render ++ " " ++ Elm.argument decoder)) ∧
          (Elm.IsNumber number.render.toList ↔ number.IsFinite) := by
  obtain ⟨draft, _, _, parsed, _⟩ := ofYaml_eq_ok read
  refine ⟨draft, parsed, fun record key number given => ?_⟩
  obtain ⟨found, draftField, recordFound, fieldFound, required, default⟩ :=
    Draft.default?_eq_some given
  obtain ⟨decl, field, declared, inside, present⟩ :=
    exists_field_of_draft read parsed recordFound fieldFound
  have optional : .optional (some (.number number.render)) = field.presence := by
    rw [Draft.presenceOf, required, default] at present
    exact Except.ok.inj present
  refine ⟨decl, field, declared, inside, optional.symm, fun resolved resolves => ?_,
    Number.isNumber_render_iff number⟩
  have single : Elm.argument (Default.number number.render).toElm = number.render :=
    if_neg number.not_mem_space_render
  obtain ⟨decoder, decoded, text⟩ := Field.decoder_of_default resolves optional.symm
  exact ⟨decoder, decoded, by rw [text, single]⟩

/-- The number of a value. -/
def Yaml.Value.number? : Yaml.Value → Option Number
  | .number value => some value
  | _ => none

/-- A default that is read as a number is the one of a document that is read. -/
theorem Draft.exists_of_number? {source record key : String} {number : Number}
    (evaluated : ((Draft.parse? source).bind (·.default? record key)).bind Yaml.Value.number? =
      some number) :
    ∃ draft, Draft.parse? source = some draft ∧
      draft.default? record key = some (.number number) := by
  obtain ⟨value, default, numeric⟩ := Option.bind_eq_some_iff.mp evaluated
  obtain ⟨draft, parsed, given⟩ := Option.bind_eq_some_iff.mp default
  cases value with
  | number other =>
    obtain rfl := Option.some.inj numeric
    exact ⟨draft, parsed, given⟩
  | null | bool _ | string _ | sequence _ | mapping _ | tagged _ _ => cases numeric

/-- A small fraction is written back, without its last zero, as a number of Elm. -/
theorem fraction_default_isNumber :
    ∃ draft number, Schema.ofYaml (counterDocument "-1.50e-7") =
        .ok (counterSchema (.number "-1.5e-7")) ∧
      Draft.parse? (counterDocument "-1.50e-7") = some draft ∧
      draft.default? "A" "k" = some (.number number) ∧ number.render = "-1.5e-7" ∧
      Elm.IsNumber number.render.toList := by
  have read : Schema.ofYaml (counterDocument "-1.50e-7") =
    .ok (counterSchema (.number "-1.5e-7")) := by decide +kernel
  obtain ⟨draft, parsed, given⟩ : ∃ draft, Draft.parse? (counterDocument "-1.50e-7") = some draft ∧
      draft.default? "A" "k" = some (.number (.fraction true ⟨5666839779443574, -75⟩)) :=
    Draft.exists_of_number? (by decide +kernel)
  obtain ⟨other, otherParsed, all⟩ := Schema.numberDefaults_iff read
  obtain rfl := Option.some.inj (parsed.symm.trans otherParsed)
  obtain ⟨_, _, _, _, _, _, written⟩ := all "A" "k" _ given
  exact ⟨draft, _, read, parsed, given, by decide +kernel, written.mpr trivial⟩

/-- **Infinity** is a number in a document, and what is written for it is none in Elm. -/
theorem infinite_default_accepted :
    ∃ draft, Schema.ofYaml (counterDocument ".inf") = .ok (counterSchema (.number ".inf")) ∧
      Draft.parse? (counterDocument ".inf") = some draft ∧
      draft.default? "A" "k" = some (.number (.infinity false)) ∧
      (counterField (.number ".inf")).decoder (counterSchema (.number ".inf")) =
        .ok "opFieldWithDefault \"k\" .inf D.int" ∧
      ¬Elm.IsNumber ".inf".toList := by
  obtain ⟨draft, parsed, given⟩ : ∃ draft, Draft.parse? (counterDocument ".inf") = some draft ∧
      draft.default? "A" "k" = some (.number (.infinity false)) :=
    Draft.exists_of_number? (by decide +kernel)
  exact ⟨draft, by decide +kernel, parsed, given, by decide +kernel,
    (Number.isNumber_render_iff (.infinity false)).not.mpr id⟩

end ElmCodec
