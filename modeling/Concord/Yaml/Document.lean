/-
  YAML documents read by a schema.

  A scalar stands for a text as it is written, whatever its type.  An empty
  plain scalar stands for a record, a list or a dictionary without parts.
  Parts of a record that its shape does not know are not looked at.

  An error has the place of the node at which it was found and the path to it
  from the root.  Collections may nest at most 128 deep, and only so many
  aliases are followed.

  * `Document.read`: the canonical form of a document of a shape.
  * `Problem.message`: the wording of what keeps a document from its shape.
-/
import Concord.Yaml.Node
import Concord.Yaml.Value

namespace Concord.Yaml

/-! ## Problems -/

/-- What keeps a document from its shape. -/
inductive Problem where
  /-- A node has not its shape: the node's path and place. -/
  | mismatch (cause : Mismatch) (path : String) (mark : Mark)
  /-- Collections nest too deep at a place. -/
  | tooDeep (mark : Mark)
  /-- Too many aliases were followed. -/
  | tooManyAliases

/-- A place after an error; the start of a text is not mentioned. -/
def Mark.suffix (m : Mark) : String :=
  if m.line = 0 && m.column = 0 then "" else " at " ++ m.text

/-- The wording of a problem. -/
def Problem.message : Problem → String
  | mismatch cause path mark =>
    (if path = "." then "" else path ++ ": ") ++ cause.message ++ mark.suffix
  | tooDeep mark => "recursion limit exceeded" ++ mark.suffix
  | tooManyAliases => "repetition limit exceeded"

/-! ## Paths -/

/-- The way from the root to a node; nothing for the root itself. -/
abbrev Path := Option String

namespace Path

/-- A path in words. -/
def text (p : Path) : String := p.getD "."

/-- The path of an item. -/
def item (p : Path) (i : Nat) : Path := some s!"{p.text}[{i}]"

/-- The path of the value under a key. -/
def member (p : Path) (key : String) : Path :=
  match p with
  | none => some key
  | some q => some (q ++ "." ++ key)

end Path

/-! ## Reading -/

namespace Reading

/-- What stays the same while a document is read. -/
structure Scope where
  /-- The nodes that aliases refer to. -/
  target? : Nat → Option Node
  /-- How many aliases may be followed. -/
  aliasLimit : Nat

/-- Reading with a count of the aliases that were followed. -/
abbrev Step := ReaderT Scope (StateT Nat (Except Problem))

/-- A node of a mismatch. -/
def fail {α : Type} (cause : Mismatch) (path : Path) (mark : Mark) : Step α :=
  throw (.mismatch cause path.text mark)

/-- A node, or the one that an alias refers to. -/
def follow (n : Node) : Step Node := do
  match n with
  | .reference mark target => do
    let scope ← read
    let followed := (← get) + 1
    set followed
    if scope.aliasLimit < followed then throw .tooManyAliases
    else
      match scope.target? target with
      | some n => return n
      | none => return Node.blank mark
  | n => return n

/-- Where a node starts. -/
def mark : Node → Mark
  | .scalar m .. | .seq m .. | .map m .. | .reference m _ => m

/-- What a node is called in an error. -/
def called : Node → Except Mismatch String
  | .scalar _ _ tag plain text => (Scalar.of tag plain text).map Scalar.called
  | .seq .. => .ok "sequence"
  | .map .. => .ok "map"
  | .reference .. => .ok "alias"

/-- A node of another type than expected. -/
def refuse {α : Type} (n : Node) (expected : String) (path : Path) : Step α :=
  match called n with
  | .ok found => fail (.wrongType found expected) path (mark n)
  | .error cause => fail cause path (mark n)

/-- The text of a scalar. -/
def text (n : Node) (expected : String) (path : Path) : Step String := do
  match ← follow n with
  | .scalar _ _ _ _ s => return s
  | n => refuse n expected path

/-- The path of the value under a key: a key that is no scalar has no name. -/
def under (path : Path) (key : Node) : Path :=
  match key with
  | .scalar _ _ _ _ s => path.member s
  | _ => path.member "?"

/-- Whether a tag names a variant of a value: a local tag does, if it is text. -/
def namesVariant (tag : Option TagBytes) : Bool := tag.any fun t => t.isLocal && t.isText

/-- A node with the name of a variant. -/
def refuseVariant {α : Type} (n : Node) (path : Path) : Step α :=
  fail (.wrongType "enum" Shape.any.expected) path (mark n)

/-- The items of a list, each read at its place. -/
def items (element : Path → Node → Step Json) (path : Path) : Nat → List Node → Step (List Json)
  | _, [] => return []
  | i, n :: r => do
    let v ← element (path.item i) n
    return v :: (← items element path (i + 1) r)

/-- The entries of a dictionary, each value read under its key.  What a key is
    called in an error may be another word for the first one. -/
def entries (firstKey : String) (element : Path → Node → Step Json) (path : Path) :
    List (Node × Node) → Step (List (String × Json))
  | [] => return []
  | (k, n) :: r => do
    let key ← text k firstKey path
    let v ← element (under path k) n
    return (key, v) :: (← entries Shape.text.expected element path r)

/-- The members of a record that its shape knows, each read by its shape. -/
def members (fields : List (String × Shape × Option Json)) (here : Mark)
    (element : Shape → Path → Node → Step Json) (path : Path) (found : List (String × Json)) :
    List (Node × Node) → Step (List (String × Json))
  | [] => return found
  | (k, n) :: r => do
    let key ← text k "field identifier" path
    match fields.lookup key with
    | none => members fields here element path found r
    | some (shape, _) =>
      if (found.lookup key).isSome then fail (.duplicate key) path here
      else
        let v ← element shape (under path k) n
        members fields here element path (found ++ [(key, v)]) r

/-- The record of the members found. -/
def assemble (fields : List (String × Shape × Option Json)) (found : List (String × Json))
    (path : Path) (here : Mark) : Step Json :=
  match Shape.assemble fields found with
  | .ok j => return j
  | .error cause => fail cause path here

/-- The canonical form of a node of any type, with collections at most so
    deep. -/
def any : Nat → Path → Node → Step Json
  | depth, path, n => do
    match ← follow n with
    | .scalar m a tag plain s =>
      if namesVariant tag then refuseVariant (.scalar m a tag plain s) path
      else
        match (Scalar.of tag plain s).bind Scalar.toJson with
        | .ok j => return j
        | .error cause => fail cause path m
    | .seq m a tag ns =>
      if namesVariant tag then refuseVariant (.seq m a tag ns) path
      else
        match depth with
        | 0 => throw (.tooDeep m)
        | depth + 1 => return .arr (← items (any depth) path 0 ns)
    | .map m a tag es =>
      if namesVariant tag then refuseVariant (.map m a tag es) path
      else
        match depth with
        | 0 => throw (.tooDeep m)
        | depth + 1 => return Json.ofMembers (← entries "a string key" (any depth) path es)
    | .reference m _ => return ← fail .outOfRange path m

/-- Whether a node is an empty plain scalar. -/
def isBlankNode : Node → Bool
  | .scalar _ _ _ plain s => plain && s.isEmpty
  | _ => false

/-- The canonical form of a node of a shape, with collections at most so
    deep. -/
def node : Nat → Shape → Path → Node → Step Json
  | depth, shape, path, n => do
    let n ← follow n
    match shape with
    | .text => return .str (← text n shape.expected path)
    | .any => any depth path n
    | .list item =>
      match n with
      | .seq m _ _ ns =>
        match depth with
        | 0 => throw (.tooDeep m)
        | depth + 1 => return .arr (← items (node depth item) path 0 ns)
      | n => if isBlankNode n then return .arr [] else refuse n shape.expected path
    | .dict _ item =>
      match n with
      | .map m _ _ es =>
        match depth with
        | 0 => throw (.tooDeep m)
        | depth + 1 =>
          return Json.ofMembers (← entries Shape.text.expected (node depth item) path es)
      | n => if isBlankNode n then return .obj [] else refuse n shape.expected path
    | .record _ fields =>
      match n with
      | .map m _ _ es =>
        match depth with
        | 0 => throw (.tooDeep m)
        | depth + 1 => do
          let found ← members fields m (node depth) path [] es
          assemble fields found path m
      | n =>
        if isBlankNode n then assemble fields [] path (mark n)
        else refuse n shape.expected path

end Reading

namespace Document

/-- How deep collections may nest. -/
def depthLimit : Nat := 128

/-- How many aliases are followed for each event of a document. -/
def aliasesPerEvent : Nat := 100

/-- The canonical form of a document of a shape; a text without any node counts
    as an empty plain scalar at its end. -/
def read (d : Document) (shape : Shape) : Except Problem Json :=
  let root := d.root.getD (Node.blank d.stop)
  (((Reading.node depthLimit shape none root).run
    ⟨d.target?, d.events * aliasesPerEvent⟩).run 0).map (·.1)

end Document

end Concord.Yaml
