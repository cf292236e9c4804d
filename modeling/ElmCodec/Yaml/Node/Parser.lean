/-
**The document of a token stream.**

A stream holds one document. It may start with directives, which take effect only in front of an
explicit start mark.

* `Document.ofTokens?` — the document of the tokens of a stream.
* `Document.parse?` — the document of a text.

An anchor gets as its number the count of different anchor names so far. A name that is used again
therefore shares its number with the next new name, and the later of the two nodes is the one that
the number stands for.
-/

import ElmCodec.Yaml.Node
import ElmCodec.Yaml.Token.Lexer

namespace ElmCodec.Yaml

/-! ### Anchors -/

/-- The anchors met so far. -/
structure Anchors where
  /-- The number of each name. -/
  numbers : List (String × Nat) := []
  /-- The site of the node that each number stands for, the latest first. -/
  sites : List (Nat × Nat) := []
  /-- The nodes with an anchor, by their sites. -/
  nodes : List (Nat × Node) := []

namespace Anchors

/-- Gives the node that starts at a site a name. -/
def name (anchors : Anchors) (name : String) (site : Nat) : Anchors :=
  let number := anchors.numbers.length
  let others := anchors.numbers.filter (·.1 != name)
  { anchors with numbers := (name, number) :: others, sites := (number, site) :: anchors.sites }

/-- Keeps the node that started at a site. -/
def keep (anchors : Anchors) (site : Nat) (node : Node) : Anchors :=
  { anchors with nodes := (site, node) :: anchors.nodes }

/-- The nodes that the numbers stand for. -/
def targets (anchors : Anchors) : List (Nat × Node) :=
  anchors.sites.filterMap fun (number, site) =>
    (anchors.nodes.lookup site).map fun node => (number, node)

end Anchors

/-! ### Reading nodes -/

/-- What is left to read of a document. -/
structure Remainder where
  tokens : List Token
  anchors : Anchors := {}
  /-- The handles of tags and what they stand for. -/
  handles : List (String × String) := []

namespace Remainder

/-- The remainder behind its first token. -/
def next (rest : Remainder) : Remainder := { rest with tokens := rest.tokens.drop 1 }

/-- Whether the first token is one of the given ones. -/
def looksAt (rest : Remainder) (tokens : List Token) : Bool :=
  rest.tokens.head?.any tokens.contains

/-- The whole tag of a handle and the rest of the tag. -/
def wholeTag (rest : Remainder) (handle suffix : String) : Option String :=
  if handle.isEmpty then some suffix else (rest.handles.lookup handle).map (· ++ suffix)

/-- The anchor in front of a node. -/
def takeAnchor (rest : Remainder) : Option String × Remainder :=
  match rest.tokens with
  | .anchor name :: _ => (some name, rest.next)
  | _ => (none, rest)

/-- The tag in front of a node, as its handle and the rest. -/
def takeTag (rest : Remainder) : Option (String × String) × Remainder :=
  match rest.tokens with
  | .tag handle suffix :: _ => (some (handle, suffix), rest.next)
  | _ => (none, rest)

/-- The anchor and the tag in front of a node, in either order. -/
def takeProperties (rest : Remainder) :
    Option (Option String × Option String × Remainder) :=
  let (anchor, rest) := rest.takeAnchor
  let (tag, rest) := rest.takeTag
  let (anchor, rest) := if anchor.isNone then rest.takeAnchor else (anchor, rest)
  match tag with
  | none => some (anchor, none, rest)
  | some (handle, suffix) => (rest.wholeTag handle suffix).map fun tag => (anchor, some tag, rest)

end Remainder

/-- An empty node without properties. -/
def Node.empty : Node := .scalar none .plain ""

/-- Where a node may stand, which decides whether it may be a block collection. -/
inductive Place where
  | flow
  | block
  /-- In a block mapping, where a sequence need not be indented. -/
  | blockValue
  deriving DecidableEq

/-- A scalar with a tag. A lone exclamation mark is no tag of a scalar. -/
def Node.ofScalar (tag : Option String) (style : Style) (text : String) : Node :=
  .scalar (if tag == some "!" then none else tag) style text

mutual

/-- Reads a node. -/
def readNode (place : Place) : Nat → Remainder → Option (Node × Remainder)
  | 0, _ => none
  | fuel + 1, start =>
    match start.tokens with
    | .reference name :: _ =>
      (start.anchors.numbers.lookup name).map fun number => (.reference number, start.next)
    | _ => do
      let (anchor, tag, rest) ← start.takeProperties
      let site := rest.tokens.length
      let named := match anchor with
        | some name => { rest with anchors := rest.anchors.name name site }
        | none => rest
      let (node, behind) ← readContent place fuel anchor.isSome tag named
      match anchor with
      | some _ => return (node, { behind with anchors := behind.anchors.keep site node })
      | none => return (node, behind)

/-- Reads a node behind its properties. With one of them the node may be left out. -/
def readContent (place : Place) :
    Nat → (anchored : Bool) → Option String → Remainder → Option (Node × Remainder)
  | 0, _, _, _ => none
  | fuel + 1, anchored, tag, rest =>
    let empty := if anchored || tag.isSome then some (.scalar tag .plain "", rest) else none
    match rest.tokens, place with
    | .scalar style text :: _, _ => some (.ofScalar tag style text, rest.next)
    | .blockEntry :: _, .blockValue =>
      (readDashes fuel rest).map fun (items, behind) => (.sequence tag items, behind)
    | .flowSequenceStart :: _, _ =>
      (readFlowItems fuel true rest.next).map fun (items, behind) => (.sequence tag items, behind)
    | .flowMappingStart :: _, _ =>
      (readFlowEntries fuel true rest.next).map fun (entries, behind) =>
        (.mapping tag entries, behind)
    | .blockSequenceStart :: _, .flow => empty
    | .blockSequenceStart :: _, _ =>
      (readBlockItems fuel rest.next).map fun (items, behind) => (.sequence tag items, behind)
    | .blockMappingStart :: _, .flow => empty
    | .blockMappingStart :: _, _ =>
      (readBlockEntries fuel rest.next).map fun (entries, behind) => (.mapping tag entries, behind)
    | _, _ => empty

/-- Reads a node unless one of some tokens, or the end of the stream, stands in its place. -/
def readUnless (place : Place) (ends : List Token) :
    Nat → Remainder → Option (Node × Remainder)
  | 0, _ => none
  | fuel + 1, rest => if rest.looksAt ends then some (.empty, rest) else readNode place fuel rest

/-- Reads the entries of a block sequence and its end. -/
def readBlockItems : Nat → Remainder → Option (List Node × Remainder)
  | 0, _ => none
  | fuel + 1, rest =>
    match rest.tokens with
    | .blockEntry :: _ => do
      let (item, behind) ← readUnless .block [.blockEntry, .blockEnd] fuel rest.next
      let (items, final) ← readBlockItems fuel behind
      return (item :: items, final)
    | .blockEnd :: _ => some ([], rest.next)
    | _ => none

/-- Reads the entries of a sequence that is not indented. -/
def readDashes : Nat → Remainder → Option (List Node × Remainder)
  | 0, _ => none
  | fuel + 1, rest =>
    match rest.tokens with
    | .blockEntry :: _ => do
      let (item, behind) ←
        readUnless .block [.blockEntry, .key, .value, .blockEnd] fuel rest.next
      let (items, final) ← readDashes fuel behind
      return (item :: items, final)
    | _ => some ([], rest)

/-- Reads the entries of a block mapping and its end. -/
def readBlockEntries : Nat → Remainder → Option (List (Node × Node) × Remainder)
  | 0, _ => none
  | fuel + 1, rest =>
    match rest.tokens with
    | .key :: _ => do
      let (key, behind) ← readUnless .blockValue [.key, .value, .blockEnd] fuel rest.next
      let (value, next) ←
        if behind.looksAt [.value] then
          readUnless .blockValue [.key, .value, .blockEnd] fuel behind.next
        else some (.empty, behind)
      let (entries, final) ← readBlockEntries fuel next
      return ((key, value) :: entries, final)
    | .blockEnd :: _ => some ([], rest.next)
    | _ => none

/-- Reads the items of a flow sequence and its end. A key among them makes a mapping of one
entry. -/
def readFlowItems : Nat → (first : Bool) → Remainder → Option (List Node × Remainder)
  | 0, _, _ => none
  | fuel + 1, first, rest =>
    if rest.looksAt [.flowSequenceEnd] then some ([], rest.next)
    else if !first && !rest.looksAt [.flowEntry] then none
    else
      let start := if first then rest else rest.next
      if start.looksAt [.flowSequenceEnd] then some ([], start.next)
      else do
        let (item, behind) ←
          if start.looksAt [.key] then readFlowPair fuel start.next else readNode .flow fuel start
        let (items, final) ← readFlowItems fuel false behind
        return (item :: items, final)

/-- Reads a mapping of one entry in a flow sequence, behind the token of its key. If the key is
left out, the token behind it does not count. -/
def readFlowPair : Nat → Remainder → Option (Node × Remainder)
  | 0, _ => none
  | fuel + 1, rest => do
    let (key, behind) ←
      if rest.looksAt [.value, .flowEntry, .flowSequenceEnd] then some (Node.empty, rest.next)
      else readNode .flow fuel rest
    let (value, final) ←
      if behind.looksAt [.value] then
        readUnless .flow [.flowEntry, .flowSequenceEnd] fuel behind.next
      else some (.empty, behind)
    return (.mapping none [(key, value)], final)

/-- Reads the entries of a flow mapping and its end. -/
def readFlowEntries : Nat → (first : Bool) → Remainder → Option (List (Node × Node) × Remainder)
  | 0, _, _ => none
  | fuel + 1, first, rest =>
    if rest.looksAt [.flowMappingEnd] then some ([], rest.next)
    else if !first && !rest.looksAt [.flowEntry] then none
    else
      let start := if first then rest else rest.next
      if start.looksAt [.flowMappingEnd] then some ([], start.next)
      else do
        let ends := [Token.flowEntry, .flowMappingEnd]
        let (entry, behind) ←
          if start.looksAt [.key] then do
            let (key, next) ← readUnless .flow (.value :: ends) fuel start.next
            let (value, behind) ←
              if next.looksAt [.value] then readUnless .flow ends fuel next.next
              else some (Node.empty, next)
            some ((key, value), behind)
          else (readNode .flow fuel start).map fun (key, behind) => ((key, Node.empty), behind)
        let (entries, final) ← readFlowEntries fuel false behind
        return (entry :: entries, final)

end

/-! ### Directives and the whole stream -/

/-- The handles that every document knows. -/
def standardHandles : List (String × String) := [("!", "!"), ("!!", "tag:yaml.org,2002:")]

/-- Reads directives: at most one version, which must be 1.1 or 1.2, and no handle twice. -/
def readDirectives (versioned : Bool) (handles : List (String × String)) :
    List Token → Option (List (String × String) × List Token)
  | .version major minor :: rest =>
    if versioned || major != 1 || (minor != 1 && minor != 2) then none
    else readDirectives true handles rest
  | .tagHandle handle start :: rest =>
    if (handles.lookup handle).isSome then none
    else readDirectives versioned (handles ++ [(handle, start)]) rest
  | rest => some (handles, rest)

/-- Whether a stream starts with a directive or the start mark of a document. -/
def startsExplicitly : List Token → Bool
  | .version .. :: _ | .tagHandle .. :: _ | .documentStart :: _ => true
  | _ => false

/-- Whether the content of an explicit document is left out. -/
def isLeftOut : List Token → Bool
  | [] | .documentEnd :: _ => true
  | rest => startsExplicitly rest

/-- A bound on the steps of reading nodes from tokens. -/
def readingFuel (tokens : List Token) : Nat := 4 * tokens.length + 8

/-- The node of a document and the tokens behind it. -/
def readRoot (tokens : List Token) : Option (Document × List Token) := do
  if tokens.isEmpty then none
  let (handles, content) ←
    if startsExplicitly tokens then
      match ← readDirectives false [] tokens with
      | (handles, .documentStart :: content) => some (handles, content)
      | _ => none
    else some ([], tokens)
  if startsExplicitly tokens && isLeftOut content then
    return ({ root := .empty, targets := [] }, content)
  let (root, rest) ← readNode .block (readingFuel content)
    { tokens := content, handles := handles ++ standardHandles }
  return ({ root, targets := rest.anchors.targets }, rest.tokens)

/-- The document of a stream. Behind it there are end marks only. -/
def Document.ofTokens? (tokens : List Token) : Option Document := do
  let (document, rest) ← readRoot tokens
  if rest.all (· == .documentEnd) then some document else none

/-- The document of a text. -/
def Document.parse? (text : String) : Option Document := (Token.scan text).bind Document.ofTokens?

end ElmCodec.Yaml
