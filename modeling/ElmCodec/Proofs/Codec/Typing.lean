/-
**Types of Elm and of the expressions in a module.**

* `Ty`, `readTy` — types, and the type that a text stands for.
* `Helper` — **the types of the helpers** that a module imports or defines.
* `HasType` — the types of expressions.
* `TypedText`, `TypedAround` — the types of texts, in the second one with an argument that is taken
  as it is.
-/

import ElmCodec.FieldType.Elm
import ElmCodec.Proofs.Reading.Expression

namespace ElmCodec

open Reading

/-! ### Types -/

/-- A type of Elm. -/
inductive Ty where
  | name (text : String)
  | unit
  | apply (constructor argument : Ty)
  | arrow (argument result : Ty)
  deriving DecidableEq, Repr

namespace Ty

/-- JSON values. -/
def value : Ty := name "E.Value"

def string : Ty := name "String"

def maybe (element : Ty) : Ty := apply (name "Maybe") element

def list (element : Ty) : Ty := apply (name "List") element

def dict (key element : Ty) : Ty := apply (apply (name "Dict") key) element

/-- Decoders of JSON values. -/
def decoder (result : Ty) : Ty := apply (name "D.Decoder") result

/-- The type that an expression of names and applications stands for. -/
def ofExpr? : Expr → Option Ty
  | .name text => some (name text)
  | .apply function argument =>
    (ofExpr? function).bind fun constructor => (ofExpr? argument).map (apply constructor)
  | .literal _ | .given | .ignoring _ => none

end Ty

/-- The type of a text. -/
def readTy (text : String) : Option Ty := (readExpression text).bind Ty.ofExpr?

/-- **The types of the helpers.** The polymorphic ones have all their instances. -/
inductive Helper (schema : Schema) : String → Ty → Prop
  | encodeBool : Helper schema "E.bool" (.arrow (.name "Bool") .value)
  | encodeInt : Helper schema "E.int" (.arrow (.name "Int") .value)
  | encodeString : Helper schema "E.string" (.arrow .string .value)
  | encodeFloat : Helper schema "E.float" (.arrow (.name "Float") .value)
  | encodeTimestamp : Helper schema "encodeTimestamp" (.arrow (.name "Timestamp") .value)
  | identity (a : Ty) : Helper schema "identity" (.arrow a a)
  | encodeList (a : Ty) :
    Helper schema "E.list" (.arrow (.arrow a .value) (.arrow (.list a) .value))
  | encodeDict (k v : Ty) :
    Helper schema "E.dict"
      (.arrow (.arrow k .string) (.arrow (.arrow v .value) (.arrow (.dict k v) .value)))
  | decodeBool : Helper schema "D.bool" (.decoder (.name "Bool"))
  | decodeInt : Helper schema "D.int" (.decoder (.name "Int"))
  | decodeString : Helper schema "D.string" (.decoder .string)
  | decodeFloat : Helper schema "D.float" (.decoder (.name "Float"))
  | decodeTimestamp : Helper schema "timestampDecoder" (.decoder (.name "Timestamp"))
  | decodeValue : Helper schema "D.value" (.decoder .value)
  | decodeList (a : Ty) : Helper schema "D.list" (.arrow (.decoder a) (.decoder (.list a)))
  | decodeDict (a : Ty) :
    Helper schema "D.dict" (.arrow (.decoder a) (.decoder (.dict .string a)))
  | decodeLazy (a : Ty) : Helper schema "D.lazy" (.arrow (.arrow .unit (.decoder a)) (.decoder a))
  | decodeField (a : Ty) :
    Helper schema "D.field" (.arrow .string (.arrow (.decoder a) (.decoder a)))
  | decodeMap (a b : Ty) :
    Helper schema "D.map" (.arrow (.arrow a b) (.arrow (.decoder a) (.decoder b)))
  | decodeSucceed (a : Ty) : Helper schema "D.succeed" (.arrow a (.decoder a))
  | just (a : Ty) : Helper schema "Just" (.arrow a (.maybe a))
  | nothing (a : Ty) : Helper schema "Nothing" (.maybe a)
  | maybeMap (a b : Ty) :
    Helper schema "Maybe.map" (.arrow (.arrow a b) (.arrow (.maybe a) (.maybe b)))
  | opField (a : Ty) :
    Helper schema "opField" (.arrow .string (.arrow (.decoder a) (.decoder (.maybe a))))
  | opFieldWithDefault (a : Ty) :
    Helper schema "opFieldWithDefault"
      (.arrow .string (.arrow a (.arrow (.decoder a) (.decoder a))))
  | encodeEnumeration (name : String) (valid : Elm.isTypeName name = true) :
    Helper schema (FieldType.enumerationStart ++ encoderName name)
      (.arrow (.name (FieldType.enumerationStart ++ name)) .value)
  | decodeEnumeration (name : String) (valid : Elm.isTypeName name = true) :
    Helper schema (FieldType.enumerationStart ++ decoderName name)
      (.decoder (.name (FieldType.enumerationStart ++ name)))
  | encodeRecord (name : String) (declared : schema.declares name = true) :
    Helper schema (encoderName (Elm.displayName name))
      (.arrow (.name (Elm.displayName name)) .value)
  | decodeRecord (name : String) (declared : schema.declares name = true) :
    Helper schema (decoderName (Elm.displayName name)) (.decoder (.name (Elm.displayName name)))

/-- **The types of expressions**, given those of names and that of an argument without a look
inside. -/
inductive HasType (known : String → Ty → Prop) (given : Option Ty) : Expr → Ty → Prop
  | name {text : String} {type : Ty} (found : known text type) :
    HasType known given (.name text) type
  | literal (text : String) : HasType known given (.literal text) .string
  | given {type : Ty} (taken : given = some type) : HasType known given .given type
  | apply {function argument : Expr} {a b : Ty} (before : HasType known given function (.arrow a b))
    (behind : HasType known given argument a) : HasType known given (.apply function argument) b
  | ignoring {body : Expr} {type : Ty} (inside : HasType known given body type) :
    HasType known given (.ignoring body) (.arrow .unit type)

/-- An expression in which nothing is taken as it is keeps its type beside what is. -/
theorem HasType.of_none {known : String → Ty → Prop} {given : Option Ty} {e : Expr} {type : Ty}
    (typed : HasType known none e type) : HasType known given e type := by
  induction typed with
  | name found => exact .name found
  | literal text => exact .literal text
  | given taken => cases taken
  | apply _ _ before behind => exact .apply before behind
  | ignoring _ inside => exact .ignoring inside

/-- A text that is an expression of a type. -/
def TypedText (known : String → Ty → Prop) (text : String) (type : Ty) : Prop :=
  ∃ e, readExpression text = some e ∧ HasType known none e type

/-- A text that is an expression of a type when a given text, taken as it is, is of another one. -/
def TypedAround (known : String → Ty → Prop) (given : String) (givenType : Ty) (text : String)
    (type : Ty) : Prop :=
  ∃ e, ReadsAround given text e ∧ HasType known (some givenType) e type

end ElmCodec
