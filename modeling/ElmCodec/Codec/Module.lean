/-
**Whole modules.**

A module names what it exposes, says in its header what it was made from and when, imports what its
code uses, and then holds its records. Records are in the order of their type names, capital and
small letters alike; of two type names that differ in case only, the order of code points decides.

* `Schema.sortedRecords` — the records of a schema in that order.
* `Schema.emit` — the text of the module.
-/

import ElmCodec.Codec.Imports
import ElmCodec.Codec.Record
import ElmCodec.Schema.Build

namespace ElmCodec

/-- The place of a record in a module. -/
def Record.sortKey (record : Record) : List String :=
  [String.ofList (Text.lowerAll record.typeName.toList), record.typeName]

/-- The names that a record adds to what its module exposes. -/
def Record.exports (record : Record) : List String :=
  [record.exposedType, record.encoderName, record.decoderName]

namespace Schema

/-- The records of a schema, in the order of a module. -/
def sortedRecords (schema : Schema) : Except SchemaError (List Record) :=
  (schema.records.entries.mapM fun entry => Record.resolve schema entry.1 entry.2).map
    fun records =>
      (OrderedMap.ofList (records.map fun record => (record.sortKey, record))).values

/-- The lines that declare a module. -/
def declarationLines (moduleName : String) (records : List Record) : List String :=
  ("module " ++ moduleName ++ " exposing") ::
    Record.leadLines "    " "(" (records.flatMap Record.exports) ++ ["    )"]

/-- The doc comment of a module. -/
def header (schema : Schema) (time : Int) : String :=
  "\x7b-| Automatically generated '" ++ schema.name ++ "'\n\nSchema version " ++ schema.version ++
    "\n\nLast generated at Unix time " ++ toString time ++ "\n\n-\x7d\n"

/-- What the records of a module use. -/
def usageOf (records : List Record) : Usage :=
  records.foldl (fun usage record => usage.merge (record.noteUse {})) {}

/-- The text of a module with the given records, rendered already. -/
def assemble (schema : Schema) (modules : ImportModules) (moduleName : String) (time : Int)
    (records : List Record) (bodies : List String) : String :=
  Record.unlines (declarationLines moduleName records) ++ "\n" ++ schema.header time ++ "\n" ++
    renderImports (importsFor modules (usageOf records)) ++ "\n\n\n" ++
    String.intercalate "\n\n" bodies

/-- The text of the module of a schema. -/
def emit (schema : Schema) (modules : ImportModules) (moduleName : String) (time : Int) :
    Except SchemaError String := do
  require (Elm.isModuleName moduleName) (.notAModuleName moduleName)
  require (!schema.records.isEmpty) .noRecords
  let records ← schema.sortedRecords
  let bodies ← records.mapM (Record.render schema)
  return schema.assemble modules moduleName time records bodies

end Schema

end ElmCodec
