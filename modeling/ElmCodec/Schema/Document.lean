/-
**Schemas from YAML.**

```yaml
name: Sync response
version: 1.2.0
objects:
  Timeline:
    description: A slice of the room timeline.
    anti_recursion: true
    fields:
      events:
        type: "[ClientEvent]"
        required: true
      limited:
        type: bool
        default: false
```

The document is first read as a draft: every key that is asked for is there once and of its type,
and all other keys are passed over. Any fault up to here, also one of the YAML itself, is the same
error. The draft then becomes declarations, and these become a schema.

* `Draft.parse?` — the draft of a text.
* `Draft.declarations` — its declarations.
* `Schema.ofYaml` — the schema of a text.
-/

import ElmCodec.Schema.Build
import ElmCodec.Yaml.Node.Parser
import ElmCodec.Yaml.Value

namespace ElmCodec

open ElmCodec.Yaml

/-! ### Drafts -/

/-- What a field says on when it is required. -/
inductive RequiredMark where
  | flag (value : Bool)
  | word (text : String)

/-- A field of a draft. -/
structure DraftField where
  typeText : String
  required : RequiredMark
  default : Option Value

/-- A record of a draft. -/
structure DraftRecord where
  description : String
  breaksRecursion : Bool
  fields : OrderedMap String DraftField

/-- A draft of a schema. -/
structure Draft where
  name : String
  version : Value
  records : OrderedMap String DraftRecord

/-! ### Reading nodes of a type -/

namespace Yaml.Document

/-- The text of a scalar, as it is written. -/
def text (document : Document) (node : Node) : Reading String := do
  match ← document.resolve node with
  | .scalar _ _ text => return text
  | _ => failure

/-- The entries of a mapping. A scalar without any character is a mapping without entries. -/
def entries (document : Document) (node : Node) : Reading (List (Node × Node)) := do
  match ← document.resolve node with
  | .mapping _ entries => return entries
  | .scalar _ .plain "" => return []
  | _ => failure

/-- The entries of a mapping with texts as keys. -/
def keyed (document : Document) (node : Node) : Reading (List (String × Node)) := do
  (← document.entries node).mapM fun (key, value) => return (← document.text key, value)

/-- A truth value. -/
def bool (document : Document) (node : Node) : Reading Bool := do
  match ← document.resolve node with
  | .scalar tag style text =>
    if style = .plain || (style = .literal && tag == some (coreTag "bool")) then
      liftM (boolWord? text)
    else failure
  | _ => failure

/-- A node unless it is null. -/
def nonNull (document : Document) (node : Node) : Reading (Option Node) := do
  let node ← document.resolve node
  match node with
  | .scalar (some tag) _ text =>
    if tag != coreTag "null" then return some node
    else if isNullWord text then return none
    else failure
  | .scalar none .plain text => return if text.isEmpty || isNullWord text then none else some node
  | _ => return some node

/-- A map of the nodes of a mapping; of two entries with one key the later counts. -/
def mapOf {α : Type} (document : Document) (read : Node → Reading α) (node : Node) :
    Reading (OrderedMap String α) := do
  let entries ← (← document.keyed node).mapM fun (key, value) => return (key, ← read value)
  return OrderedMap.ofList entries

end Yaml.Document

/-- The node of a key that may be missing but not be there twice. -/
def optionalNode (key : String) (entries : List (String × Node)) : Reading (Option Node) :=
  match entries.filter (·.1 == key) with
  | [] => pure none
  | [(_, node)] => pure (some node)
  | _ => failure

/-- The node of a key that is there once. -/
def requiredNode (key : String) (entries : List (String × Node)) : Reading Node := do
  match ← optionalNode key entries with
  | some node => return node
  | none => failure

/-! ### Reading drafts -/

namespace Draft

/-- The number of collections that a document may hold inside one another. -/
def depthLimit : Nat := 128

/-- What a field says on when it is required. -/
def readRequired (document : Document) (node : Node) : Reading RequiredMark := do
  match ← document.value depthLimit node with
  | .bool value => return .flag value
  | .string text => return .word text
  | _ => failure

/-- A field, five collections deep in the document. -/
def readField (document : Document) (node : Node) : Reading DraftField := do
  let entries ← document.keyed node
  let typeText ← document.text (← requiredNode "type" entries)
  let required ← match ← optionalNode "required" entries with
    | some node => readRequired document node
    | none => pure (.flag false)
  let default ← match ← optionalNode "default" entries with
    | some node => (← document.nonNull node).mapM (document.value (depthLimit - 5))
    | none => pure none
  return { typeText, required, default }

/-- A record. -/
def readRecord (document : Document) (node : Node) : Reading DraftRecord := do
  let entries ← document.keyed node
  let description ← match ← optionalNode "description" entries with
    | some node => (← document.nonNull node).mapM document.text
    | none => pure none
  let breaksRecursion ← match ← optionalNode "anti_recursion" entries with
    | some node => document.bool node
    | none => pure false
  let fields ← document.mapOf (readField document) (← requiredNode "fields" entries)
  return { description := description.getD "", breaksRecursion, fields }

/-- A whole document. -/
def read (document : Document) (node : Node) : Reading Draft := do
  let entries ← document.keyed node
  let name ← document.text (← requiredNode "name" entries)
  let version ← document.value (depthLimit - 1) (← requiredNode "version" entries)
  let records ← document.mapOf (readRecord document) (← requiredNode "objects" entries)
  return { name, version, records }

/-- The draft of a text. -/
def parse? (text : String) : Option Draft :=
  (Document.parse? text).bind fun document => document.run (read document)

/-! ### From drafts to declarations -/

/-- The default of a field. -/
def defaultOf (key : String) : Value → Except SchemaError (Option Default)
  | .null => .ok none
  | .bool value => .ok (some (.bool value))
  | .number value => .ok (some (.number value.render))
  | .string text =>
    if Text.isBlankText text then .error (.blankDefault key) else .ok (some (.expression text))
  | _ => .error (.unfitDefault key)

/-- When a field is present. The default counts for an optional one only. -/
def presenceOf (key : String) (field : DraftField) : Except SchemaError Presence :=
  match field.required with
  | .flag true => .ok .required
  | .flag false =>
    match field.default with
    | some value => (defaultOf key value).map .optional
    | none => .ok (.optional none)
  | .word "now" => .ok .now
  | .word "never" => .ok .never
  | .word other => .error (.unknownPresence key other)

/-- The declaration of a field. -/
def fieldDecl (entry : String × DraftField) : Except SchemaError (String × FieldDecl) := do
  let presence ← presenceOf entry.1 entry.2
  return (entry.1, { typeText := entry.2.typeText, presence })

/-- The declaration of a record. -/
def recordDecl (entry : String × DraftRecord) : Except SchemaError (String × RecordDecl) := do
  let fields ← entry.2.fields.entries.mapM fieldDecl
  return (entry.1,
    { description := entry.2.description
      fields := OrderedMap.ofList fields
      breaksRecursion := entry.2.breaksRecursion })

/-- The version of a draft. A number is written in one way. -/
def versionText (draft : Draft) : Except SchemaError String :=
  match draft.version with
  | .string text => .ok text
  | .number value => .ok value.render
  | _ => .error .versionNotText

/-- The declarations of a draft, by the names of the records. -/
def declarations (draft : Draft) : Except SchemaError (OrderedMap String RecordDecl) :=
  (draft.records.entries.mapM recordDecl).map OrderedMap.ofList

end Draft

/-- The schema of a YAML text. -/
def Schema.ofYaml (text : String) : Except SchemaError Schema :=
  match Draft.parse? text with
  | none => .error .unreadableDocument
  | some draft => do
    let version ← draft.versionText
    let records ← draft.declarations
    Schema.build draft.name version records

end ElmCodec
