/-
  Documents of YAML texts: trees of nodes.

  An alias refers to an anchor by a number.  A new anchor gets the count of
  the names known so far, so a name that is given again gets the number that
  the next new name will have.

  * `Node`: scalars, sequences, mappings and aliases at their places.
  * `Document.ofText?`: the only document of a text, unless the text is
    malformed, refers to an unknown anchor or holds several documents.
-/
import Concord.Yaml.Token

namespace Concord.Yaml

/-- A node of a document.  Places are those where the node starts, its anchor
    and its tag included. -/
inductive Node where
  | scalar (mark : Mark) (anchor : Option Nat) (tag : Option TagBytes) (plain : Bool)
      (text : String)
  | seq (mark : Mark) (anchor : Option Nat) (tag : Option TagBytes) (items : List Node)
  | map (mark : Mark) (anchor : Option Nat) (tag : Option TagBytes) (entries : List (Node × Node))
  | reference (mark : Mark) (target : Nat)

namespace Node

/-- A plain scalar without text. -/
def blank (mark : Mark) : Node := scalar mark none none true ""

mutual

/-- How many events a node consists of: one for a scalar or an alias, two and
    those of its parts for a collection. -/
def events : Node → Nat
  | scalar .. | reference .. => 1
  | seq _ _ _ items => 2 + eventsOfItems items
  | map _ _ _ entries => 2 + eventsOfEntries entries

/-- The events of items. -/
def eventsOfItems : List Node → Nat
  | [] => 0
  | n :: r => n.events + eventsOfItems r

/-- The events of entries. -/
def eventsOfEntries : List (Node × Node) → Nat
  | [] => 0
  | (k, v) :: r => k.events + v.events + eventsOfEntries r

end

mutual

/-- The anchored nodes of a node, in the order of the text. -/
def anchored : Node → List (Nat × Node)
  | reference .. => []
  | scalar m a t p s => (a.map fun i => (i, scalar m a t p s)).toList
  | seq m a t items => (a.map fun i => (i, seq m a t items)).toList ++ anchoredItems items
  | map m a t entries => (a.map fun i => (i, map m a t entries)).toList ++ anchoredEntries entries

/-- The anchored nodes of items. -/
def anchoredItems : List Node → List (Nat × Node)
  | [] => []
  | n :: r => n.anchored ++ anchoredItems r

/-- The anchored nodes of entries. -/
def anchoredEntries : List (Node × Node) → List (Nat × Node)
  | [] => []
  | (k, v) :: r => k.anchored ++ v.anchored ++ anchoredEntries r

end

end Node

/-! ## Nodes of tokens -/

/-- What is known while nodes are read from tokens. -/
structure NodeReader where
  tokens : List Token
  /-- The anchors by name, the latest first. -/
  anchors : List (String × Nat)
  /-- What the handles of tags stand for. -/
  handles : List (String × TagBytes)

namespace NodeReader

/-- Work with tokens that may find the text malformed. -/
abbrev Step := StateT NodeReader Option

/-- The next token. -/
def next : Step Token := do
  match (← get).tokens with
  | t :: _ => return t
  | [] => failure

/-- The kind of the next token. -/
def kind : Step TokenKind := return (← next).kind

/-- Takes the next token away. -/
def skip : Step Unit := modify fun r => { r with tokens := r.tokens.tail }

/-- Takes the next token away if it is of a kind, and fails otherwise. -/
def expect (k : TokenKind) : Step Unit := do
  if (← kind) = k then skip else failure

/-- Gives a name the number of a new anchor. -/
def define (name : String) : Step Nat := do
  let r ← get
  let number := r.anchors.length
  set { r with anchors := (name, number) :: r.anchors.filter fun a => a.1 != name }
  return number

/-- The number of a name. -/
def refer (name : String) : Step Nat := do
  match (← get).anchors.lookup name with
  | some number => return number
  | none => failure

/-- The tag of a handle and a suffix. -/
def resolveTag (handle : String) (suffix : TagBytes) : Step TagBytes := do
  if handle.isEmpty then return suffix
  else
    match (← get).handles.lookup handle with
    | some start => return start ++ suffix
    | none => failure

/-- The anchor and the tag before a node, in any order. -/
def properties : Step (Option String × Option (String × TagBytes)) := do
  match ← kind with
  | .anchor name =>
    skip
    match ← kind with
    | .tag handle suffix =>
      skip
      return (some name, some (handle, suffix))
    | _ => return (some name, none)
  | .tag handle suffix =>
    skip
    match ← kind with
    | .anchor name =>
      skip
      return (some name, some (handle, suffix))
    | _ => return (none, some (handle, suffix))
  | _ => return (none, none)

/-- Whether a value is missing before a token in a block mapping. -/
def endsBlockValue : TokenKind → Bool
  | .key | .value | .blockEnd => true
  | _ => false

mutual

/-- A node.  Block collections may stand only where they are allowed, and a
    sequence without indentation of its own only as a part of a mapping. -/
def node : Nat → (block indentless : Bool) → Step Node
  | 0, _, _ => failure
  | fuel + 1, block, indentless => do
    let first ← next
    if let .reference name := first.kind then
      skip
      return .reference first.start (← refer name)
    let (anchor?, tag?) ← properties
    let mark := first.start
    let tag ← tag?.mapM fun (handle, suffix) => resolveTag handle suffix
    let anchor ← anchor?.mapM define
    match ← kind with
    | .blockEntry =>
      if indentless then
        return .seq mark anchor tag (← indentlessItems fuel)
      else if anchor?.isSome || tag?.isSome then return .scalar mark anchor tag true ""
      else failure
    | .scalar plain text =>
      skip
      return .scalar mark anchor tag plain text
    | .flowSequenceStart =>
      skip
      return .seq mark anchor tag (← flowItems fuel true)
    | .flowMappingStart =>
      skip
      return .map mark anchor tag (← flowEntries fuel true)
    | k =>
      if block && k = .blockSequenceStart then
        skip
        return .seq mark anchor tag (← blockItems fuel)
      else if block && k = .blockMappingStart then
        skip
        return .map mark anchor tag (← blockEntries fuel)
      else if anchor?.isSome || tag?.isSome then return .scalar mark anchor tag true ""
      else failure

/-- The items of a block sequence up to its end. -/
def blockItems : Nat → Step (List Node)
  | 0 => failure
  | fuel + 1 => do
    let t ← next
    match t.kind with
    | .blockEntry =>
      skip
      let k ← kind
      let item ←
        if k = .blockEntry || k = .blockEnd then pure (Node.blank t.stop) else node fuel true false
      return item :: (← blockItems fuel)
    | .blockEnd =>
      skip
      return []
    | _ => failure

/-- The items of a sequence without indentation of its own. -/
def indentlessItems : Nat → Step (List Node)
  | 0 => failure
  | fuel + 1 => do
    let t ← next
    if t.kind = .blockEntry then
      skip
      let k ← kind
      let item ←
        if k = .blockEntry || endsBlockValue k then pure (Node.blank t.stop)
        else node fuel true false
      return item :: (← indentlessItems fuel)
    else return []

/-- The entries of a block mapping up to its end. -/
def blockEntries : Nat → Step (List (Node × Node))
  | 0 => failure
  | fuel + 1 => do
    let t ← next
    match t.kind with
    | .key =>
      skip
      let key ←
        if endsBlockValue (← kind) then pure (Node.blank t.stop) else node fuel true true
      let value ← blockValue fuel
      return (key, value) :: (← blockEntries fuel)
    | .blockEnd =>
      skip
      return []
    | _ => failure

/-- The value of an entry of a block mapping. -/
def blockValue : Nat → Step Node
  | 0 => failure
  | fuel + 1 => do
    let t ← next
    if t.kind = .value then
      skip
      if endsBlockValue (← kind) then return Node.blank t.stop else node fuel true true
    else return Node.blank t.start

/-- The items of a flow sequence up to its end.  An item that starts with a key
    is a mapping of one entry. -/
def flowItems : Nat → (first : Bool) → Step (List Node)
  | 0, _ => failure
  | fuel + 1, first => do
    if (← kind) = .flowSequenceEnd then
      skip
      return []
    if !first then expect .flowEntry
    let t ← next
    match t.kind with
    | .flowSequenceEnd =>
      skip
      return []
    | .key =>
      skip
      let entry ← singleEntry fuel
      return .map t.start none none [entry] :: (← flowItems fuel false)
    | _ =>
      let item ← node fuel false false
      return item :: (← flowItems fuel false)

/-- The entry of a mapping that is an item of a flow sequence.  Where its key is
    missing, the token in its place is skipped. -/
def singleEntry : Nat → Step (Node × Node)
  | 0 => failure
  | fuel + 1 => do
    let t ← next
    let missing := t.kind = .value || t.kind = .flowEntry || t.kind = .flowSequenceEnd
    if missing then skip
    let key ← if missing then pure (Node.blank t.stop) else node fuel false false
    if (← kind) = .value then
      skip
      let u ← next
      if u.kind = .flowEntry || u.kind = .flowSequenceEnd then return (key, Node.blank u.start)
      else return (key, ← node fuel false false)
    else return (key, Node.blank (← next).start)

/-- The entries of a flow mapping up to its end. -/
def flowEntries : Nat → (first : Bool) → Step (List (Node × Node))
  | 0, _ => failure
  | fuel + 1, first => do
    if (← kind) = .flowMappingEnd then
      skip
      return []
    if !first then expect .flowEntry
    match ← kind with
    | .flowMappingEnd =>
      skip
      return []
    | .key =>
      skip
      let t ← next
      let key ←
        if t.kind = .value || t.kind = .flowEntry || t.kind = .flowMappingEnd then
          pure (Node.blank t.start)
        else node fuel false false
      let value ← flowValue fuel
      return (key, value) :: (← flowEntries fuel false)
    | _ =>
      let key ← node fuel false false
      let value := Node.blank (← next).start
      return (key, value) :: (← flowEntries fuel false)

/-- The value of an entry of a flow mapping. -/
def flowValue : Nat → Step Node
  | 0 => failure
  | fuel + 1 => do
    let t ← next
    if t.kind = .value then
      skip
      let u ← next
      if u.kind = .flowEntry || u.kind = .flowMappingEnd then return Node.blank u.start
      else node fuel false false
    else return Node.blank t.start

end

/-! ## Documents -/

/-- The directives before a document; the fuel bounds their number. -/
def directives : Nat → (versioned : Bool) → (handles : List (String × TagBytes)) →
    Step (List (String × TagBytes))
  | 0, _, _ => failure
  | fuel + 1, versioned, handles => do
    match ← kind with
    | .version major minor =>
      if versioned || major ≠ 1 || (minor ≠ 1 && minor ≠ 2) then failure
      skip
      directives fuel true handles
    | .tagHandle handle start =>
      if (handles.lookup handle).isSome then failure
      skip
      directives fuel versioned (handles ++ [(handle, start)])
    | _ => return handles

/-- The handles that every document knows. -/
def defaultHandles : List (String × TagBytes) :=
  [("!", TagBytes.ofString "!"), ("!!", TagBytes.ofString "tag:yaml.org,2002:")]

/-- The root of the first document, with its directives; a text without any
    node has no root but the place of its end. -/
def root (fuel : Nat) : Step (Option Node × Mark) := do
  let t ← next
  match t.kind with
  | .streamEnd => return (none, t.start)
  | .version .. | .tagHandle .. | .documentStart =>
    let handles ← directives fuel false []
    modify fun r => { r with handles := handles ++ defaultHandles }
    expect .documentStart
    let u ← next
    match u.kind with
    | .version .. | .tagHandle .. | .documentStart | .documentEnd | .streamEnd =>
      return (some (Node.blank u.start), u.start)
    | _ => return (some (← node fuel true false), t.start)
  | _ =>
    modify fun r => { r with handles := defaultHandles }
    return (some (← node fuel true false), t.start)

/-- Skips the ends of documents. -/
def skipDocumentEnds : List Token → List Token
  | t :: r => if t.kind = .documentEnd then skipDocumentEnds r else t :: r
  | [] => []

end NodeReader

/-- The document of a text. -/
structure Document where
  /-- The root, unless the text holds no node. -/
  root : Option Node
  /-- The place of the end of a text without a node. -/
  stop : Mark

namespace Document

/-- The document of a text. -/
def ofText? (s : String) : Option Document := do
  let tokens ← tokens? s
  let fuel := 4 * tokens.length + 4
  let ((root, stop), r) ← (NodeReader.root fuel).run ⟨tokens, [], []⟩
  match NodeReader.skipDocumentEnds r.tokens with
  | [t] => if t.kind = .streamEnd then some ⟨root, stop⟩ else none
  | _ => none

/-- The node of an alias: the last one of its number. -/
def target? (d : Document) (number : Nat) : Option Node :=
  match d.root with
  | some n => n.anchored.reverse.lookup number
  | none => none

/-- How many events the document consists of. -/
def events (d : Document) : Nat :=
  match d.root with
  | some n => n.events
  | none => 1

end Document

end Concord.Yaml
