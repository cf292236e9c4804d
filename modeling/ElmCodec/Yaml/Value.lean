/-
**Values of YAML nodes.**

Where any value may stand, a scalar without quotes and without a tag is a null, a truth value, a
number or a text by its form; a tag of the core schema asks for one of these, and a tag of one's
own makes a tagged value.

* `Document.value` — the value of a node, read within a depth and a number of jumps.
-/

import ElmCodec.Yaml.Node
import ElmCodec.Yaml.Number

namespace ElmCodec.Yaml

/-- A value. -/
inductive Value where
  | null
  | bool (value : Bool)
  | number (value : Number)
  | string (text : String)
  | sequence (items : List Value)
  | mapping (entries : List (Value × Value))
  | tagged (tag : String) (content : Value)
  deriving Inhabited

/-! ### Equality of keys -/

namespace Value

mutual

/-- Whether two values count as one key. The order of the entries of a mapping does not matter. -/
def sameKey : Value → Value → Bool
  | null, null => true
  | bool first, bool second => first == second
  | number first, number second => first.sameKey second
  | string first, string second => first == second
  | sequence first, sequence second => sameItems first second
  | mapping first, mapping second => first.length == second.length && sameEntries first second
  | tagged tag first, tagged other second => tag == other && sameKey first second
  | _, _ => false

/-- Whether two sequences have equal items. -/
def sameItems : List Value → List Value → Bool
  | [], [] => true
  | first :: rest, second :: others => sameKey first second && sameItems rest others
  | _, _ => false

/-- Whether the entries of one mapping are entries of another. -/
def sameEntries : List (Value × Value) → List (Value × Value) → Bool
  | [], _ => true
  | (key, value) :: rest, others =>
    others.any (fun entry => sameKey key entry.1 && sameKey value entry.2) &&
      sameEntries rest others

end

end Value

/-! ### Scalars -/

/-- The tags of the core schema. -/
def coreTag (name : String) : String := "tag:yaml.org,2002:" ++ name

/-- Whether a text is a null that is written out. -/
def isNullWord (text : String) : Bool := text ∈ ["null", "Null", "NULL", "~"]

/-- The truth value of a text. -/
def boolWord? (text : String) : Option Bool :=
  if text ∈ ["true", "True", "TRUE"] then some true
  else if text ∈ ["false", "False", "FALSE"] then some false
  else none

/-- The whole number of a text as a value. One that 64 bits cannot hold is refused. -/
def wholeValue (value : Int) : Option Value :=
  if isKept value then some (.number (.whole value)) else none

/-- The value of a scalar by its form alone. -/
def plainValue (text : String) : Option Value :=
  if text.isEmpty || isNullWord text then some .null
  else
    match boolWord? text with
    | some value => some (.bool value)
    | none =>
      match (wholeNumber? text.toList).filter isRecognised with
      | some value => wholeValue value
      | none =>
        if isZeroPadded text.toList then some (.string text)
        else some (((fraction? text.toList).map Value.number).getD (.string text))

/-- The value of a scalar with a tag that is not one's own. -/
def coreValue (tag : String) (text : String) : Option Value :=
  if tag == coreTag "bool" then (boolWord? text).map .bool
  else if tag == coreTag "int" then
    ((wholeNumber? text.toList).filter isRecognised).bind wholeValue
  else if tag == coreTag "float" then (fraction? text.toList).map .number
  else if tag == coreTag "null" then if isNullWord text then some .null else none
  else some (.string text)

/-- The name of a tag of one's own. -/
def ownTag? (tag : Option String) : Option String :=
  tag.bind fun tag =>
    match tag.toList with
    | ['!'] => some "!"
    | '!' :: name => some (String.ofList name)
    | _ => none

/-- The value of a scalar; `tagged` tells that its tag has been taken account of. -/
def scalarValue (tagged : Bool) (tag : Option String) (style : Style) (text : String) :
    Option Value :=
  match tag, tagged with
  | some tag, false => coreValue tag text
  | _, _ => if style = .plain then plainValue text else some (.string text)

/-! ### Nodes -/

/-- A computation that follows aliases. The state is the number of jumps that are left. -/
abbrev Reading := StateT Nat Option

namespace Document

/-- The number of jumps to anchors that a document allows. -/
def jumpLimit (document : Document) : Nat := document.root.size * 100

/-- The node that a node stands for: itself, or the target of an alias. -/
def resolve (document : Document) : Node → Reading Node
  | .reference anchor => fun jumps =>
    if jumps = 0 then none
    else (document.target? anchor).map fun target => (target, jumps - 1)
  | node => pure node

/-- The result of a computation on the root of a document. -/
def run {α : Type} (document : Document) (reading : Node → Reading α) : Option α :=
  ((reading document.root).run document.jumpLimit).map (·.1)

end Document

/-- The tag of a node. -/
def Node.tag? : Node → Option String
  | scalar tag _ _ | sequence tag _ | mapping tag _ => tag
  | reference _ => none

/-- A mapping of entries no two of which have the same key. -/
def Value.ofEntries (entries : List (Value × Value)) : Option Value :=
  let rec distinct : List (Value × Value) → Bool
    | [] => true
    | (key, _) :: rest => !rest.any (fun entry => key.sameKey entry.1) && distinct rest
  if distinct entries then some (.mapping entries) else none

/-- The value of a node that holds at most `depth` collections inside one another. -/
def Document.value (document : Document) : (depth : Nat) → Node → Reading Value
  | depth, node => do
    let node ← document.resolve node
    let tag := ownTag? node.tag?
    let content ← match node, depth with
      | .scalar tagText style text, _ => liftM (scalarValue tag.isSome tagText style text)
      | .sequence _ items, depth + 1 => Value.sequence <$> items.mapM (document.value depth)
      | .mapping _ entries, depth + 1 => do
        let values ← entries.mapM fun (key, value) => do
          return (← document.value depth key, ← document.value depth value)
        liftM (Value.ofEntries values)
      | _, _ => failure
    return match tag with
      | some tag => .tagged tag content
      | none => content

end ElmCodec.Yaml
