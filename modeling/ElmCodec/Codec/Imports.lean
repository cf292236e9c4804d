/-
**The imports of a generated module.**

* `ImportModules` — the modules that hold the helpers, and the check of their names.
* `importsFor` — the import lines for what a module uses, in their order.
-/

import ElmCodec.Codec.Usage
import ElmCodec.Elm.Identifier
import ElmCodec.Schema.Error

namespace ElmCodec

/-- The modules that hold the helpers of generated code. -/
structure ImportModules where
  /-- Holds `opField`, `opFieldWithDefault`, and `map9` and beyond. -/
  decodeExtra : String := "Internal.Tools.DecodeExtra"
  /-- Holds `maybeObject`. -/
  encodeExtra : String := "Internal.Tools.EncodeExtra"
  /-- Holds `Timestamp`, `encodeTimestamp` and `timestampDecoder`. -/
  timestamp : String := "Internal.Tools.Timestamp"
  /-- Holds the enumerations. -/
  enums : String := "Internal.Tools.SpecEnums"
  deriving DecidableEq, Repr

namespace ImportModules

/-- The modules under their keys in a manifest, in the order in which they are checked. -/
def entries (modules : ImportModules) : List (String × String) :=
  [("decode_extra", modules.decodeExtra), ("encode_extra", modules.encodeExtra),
    ("timestamp", modules.timestamp), ("enums", modules.enums)]

/-- Refuses the first name that is no module name. -/
def validate (modules : ImportModules) : Except SchemaError Unit :=
  modules.entries.forM fun entry =>
    if Elm.isModuleName entry.2 then .ok () else .error (.notAnImport entry.1 entry.2)

end ImportModules

/-- An import line. -/
structure Import where
  moduleName : String
  qualifier : Option String := none
  exposes : List String := []
  deriving DecidableEq, Repr

/-- The text of an import line. -/
def Import.render (line : Import) : String :=
  "import " ++ line.moduleName ++
    (match line.qualifier with
      | some qualifier => " as " ++ qualifier
      | none => "") ++
    (if line.exposes.isEmpty then ""
      else " exposing (" ++ String.intercalate ", " line.exposes ++ ")")

/-- The import lines for what a module uses. -/
def importsFor (modules : ImportModules) (usage : Usage) : List Import :=
  (if usage.dict then [{ moduleName := "Dict", exposes := ["Dict"] }] else []) ++
  (if usage.needsExtendedArity || !usage.decodeExposing.isEmpty then
    [{ moduleName := modules.decodeExtra
       qualifier := if usage.needsExtendedArity then some "D" else none
       exposes := usage.decodeExposing }] else []) ++
  (if usage.maybeObject then
    [{ moduleName := modules.encodeExtra, exposes := ["maybeObject"] }] else []) ++
  (if usage.timestamp then
    [{ moduleName := modules.timestamp
       exposes := ["Timestamp", "encodeTimestamp", "timestampDecoder"] }] else []) ++
  (if usage.enums then [{ moduleName := modules.enums, qualifier := some "Enums" }] else []) ++
  [{ moduleName := "Json.Decode", qualifier := some "D" },
    { moduleName := "Json.Encode", qualifier := some "E" }]

/-- The lines of imports as a text. -/
def renderImports (lines : List Import) : String :=
  String.intercalate "\n" (lines.map Import.render)

end ElmCodec
