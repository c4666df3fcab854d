import DataGrid.Yaml.Token

/-!
# Documents of YAML

The tree of a YAML document. Aliases stay in the tree; what they stand for is kept beside it, so a
node may contain an alias of itself.

## Main definitions

* `DataGrid.Yaml.Node` — the tree.
* `DataGrid.Yaml.Document` — a tree with the nodes that its aliases stand for.
* `DataGrid.Yaml.parse?` — the document that a text holds.

## Implementation notes

Anchors have numbers: the number of an anchor is how many names of anchors there are in front of it.
An anchor whose name was in use before gets a number of its own all the same, but one that the next
new name gets, too. Of the nodes that share a number, the one that begins last is meant by all
aliases of that number, even by those in front of it.

The readers of nodes count down `fuel`, which starts at a multiple of the number of tokens. Readers
of collections take the parts that they found so far, the last one first.
-/

namespace DataGrid.Yaml

/-- A node of a document. -/
inductive Node where
  /-- A scalar; `plain` tells whether it is written without quotes. -/
  | scalar (tag : Option Tag) (plain : Bool) (text : String)
  | sequence (items : List Node)
  | mapping (members : List (Node × Node))
  /-- An alias of the anchor with a number. -/
  | reference (anchor : Nat)

namespace Node

/-- The missing scalar. -/
def empty : Node := .scalar none true ""

mutual

/-- The size of a node: one for each scalar or alias, two for each collection, for its beginning and
its end. -/
def size : Node → Nat
  | .scalar _ _ _ => 1
  | .sequence items => 2 + sizeOfItems items
  | .mapping members => 2 + sizeOfMembers members
  | .reference _ => 1

/-- The size of the elements of a sequence. -/
def sizeOfItems : List Node → Nat
  | [] => 0
  | n :: items => n.size + sizeOfItems items

/-- The size of the members of a mapping. -/
def sizeOfMembers : List (Node × Node) → Nat
  | [] => 0
  | (k, v) :: members => k.size + v.size + sizeOfMembers members

end

end Node

/-- A document: its tree, and the nodes that aliases stand for by the numbers of their anchors. -/
structure Document where
  root : Node
  targets : Array Node

namespace Reading

/-! ## State -/

/-- What is left of the tokens, and the anchors met so far. -/
structure State where
  tokens : List Token
  /-- The numbers of the anchors, the last one first. -/
  anchors : List (String × Nat) := []
  /-- The number of different names among them. -/
  names : Nat := 0
  /-- The number of anchors in front of the last node of each number, and this node once it is
  read. -/
  targets : Array (Nat × Node) := #[]

/-- A reader of nodes. -/
abbrev Reader := StateT State Option

/-- The next token. -/
def peek? : Reader (Option Token) := do return (← get).tokens.head?

/-- Pass over the next token. -/
def advance : Reader Unit := modify fun s => { s with tokens := s.tokens.tail }

/-- Pass over the next token if it is the given one, and tell whether it was. -/
def accept (t : Token) : Reader Bool := do
  if (← peek?) = some t then
    advance
    return true
  else return false

/-- The array with one element replaced, or with one more element at its end. -/
def putAt {α : Type} (xs : Array α) (i : Nat) (x : α) : Array α :=
  if i < xs.size then xs.setIfInBounds i x else xs.push x

/-- A node with an anchor begins. -/
def State.begin (s : State) (name : String) : State :=
  { s with
    anchors := (name, s.names) :: s.anchors
    names := if (s.anchors.lookup name).isSome then s.names else s.names + 1
    targets := putAt s.targets s.names (s.anchors.length, .empty) }

/-- The node with the anchor of the given number is read; `before` anchors are in front of it. It
counts unless another node with this number began inside of it. -/
def State.finish (s : State) (number before : Nat) (n : Node) : State :=
  if (s.targets[number]?).any fun target => target.1 == before then
    { s with targets := s.targets.setIfInBounds number (before, n) }
  else s

/-- The node that a reader gives, with an anchor. -/
def anchored (name : String) (read : Reader Node) : Reader Node := do
  let s ← get
  let number := s.names
  let before := s.anchors.length
  set (s.begin name)
  let n ← read
  modify fun s => s.finish number before n
  return n

/-- The alias of a name. -/
def referenceTo (name : String) : Reader Node := do
  match (← get).anchors.lookup name with
  | some number => return .reference number
  | none => failure

/-- Whether the next token is one of the given ones, or there is none. -/
def before (ends : List Token) : Reader Bool := do
  match ← peek? with
  | some t => return ends.contains t
  | none => return true

/-! ## Properties -/

/-- What may stand in front of a node. -/
structure Properties where
  anchor : Option String := none
  tag : Option (String × Tag) := none

/-- The handles that are always known, and what they stand for. -/
def standardHandles : List (String × Tag) :=
  [("!", .ofString "!"), ("!!", .ofString "tag:yaml.org,2002:")]

/-- The complete tag. The lone exclamation mark is a tag of its own. -/
def completeTag? (handles : List (String × Tag)) : String × Tag → Option Tag
  | ("", tag) => some tag
  | ("!", []) => some (.ofString "!")
  | (handle, suffix) => (handles.lookup handle).map fun meaning => meaning ++ suffix

/-- An anchor and a tag in any order, each at most once. -/
def properties : Reader Properties := do
  match ← peek? with
  | some (.anchor name) =>
    advance
    match ← peek? with
    | some (.tag handle suffix) =>
      advance
      return { anchor := some name, tag := some (handle, suffix) }
    | _ => return { anchor := some name }
  | some (.tag handle suffix) =>
    advance
    match ← peek? with
    | some (.anchor name) =>
      advance
      return { anchor := some name, tag := some (handle, suffix) }
    | _ => return { tag := some (handle, suffix) }
  | _ => return {}

/-! ## Nodes -/

/-- Where a node may stand: inside brackets, in a block, or as key or value of a block mapping,
where a sequence needs no indentation. -/
inductive Position where
  | flow
  | block
  | member
deriving DecidableEq

/-- Tokens that leave the element of a block sequence empty. -/
def afterDash : List Token := [.dash, .blockEnd]

/-- Tokens that leave the element of a sequence without indentation empty. -/
def afterBareDash : List Token := [.dash, .key, .value, .blockEnd]

/-- Tokens that leave the key or value of a block mapping empty. -/
def afterMember : List Token := [.key, .value, .blockEnd]

/-- Tokens that leave the key of a pair in a flow sequence empty; they are passed over. -/
def afterPairKey : List Token := [.value, .comma, .flowSequenceEnd]

/-- Tokens that leave the value of a pair in a flow sequence empty. -/
def afterPairValue : List Token := [.comma, .flowSequenceEnd]

/-- Tokens that leave the key of a flow mapping empty. -/
def afterFlowKey : List Token := [.value, .comma, .flowMappingEnd]

/-- Tokens that leave the value of a flow mapping empty. -/
def afterFlowValue : List Token := [.comma, .flowMappingEnd]

mutual

/-- A node. -/
def node (handles : List (String × Tag)) (fuel : Nat) (position : Position) : Reader Node :=
  match fuel with
  | 0 => failure
  | fuel + 1 => do
    match ← peek? with
    | some (.reference name) =>
      advance
      referenceTo name
    | _ =>
      let given ← properties
      let tag ← match given.tag with
        | none => pure none
        | some t =>
          match completeTag? handles t with
          | some tag => pure (some tag)
          | none => failure
      match given.anchor with
      | none => content handles fuel position tag false
      | some name => anchored name (content handles fuel position tag true)

/-- A node behind its properties. A node with properties may be empty. -/
def content (handles : List (String × Tag)) (fuel : Nat) (position : Position)
    (tag : Option Tag) (anchored : Bool) : Reader Node :=
  match fuel with
  | 0 => failure
  | fuel + 1 => do
    match ← peek?, position with
    | some .dash, .member => bareItems handles fuel []
    | some (.scalar plain text), _ =>
      advance
      return .scalar tag plain text
    | some .flowSequence, _ =>
      advance
      flowItems handles fuel []
    | some .flowMapping, _ =>
      advance
      flowMembers handles fuel []
    | some .blockSequence, .block | some .blockSequence, .member =>
      advance
      blockItems handles fuel []
    | some .blockMapping, .block | some .blockMapping, .member =>
      advance
      blockMembers handles fuel []
    | _, _ => if tag.isSome || anchored then return .scalar tag true "" else failure

/-- A node, or the empty one if the next token is one of those given. -/
def nodeUnless (handles : List (String × Tag)) (fuel : Nat) (ends : List Token)
    (position : Position) : Reader Node :=
  match fuel with
  | 0 => failure
  | fuel + 1 => do
    if ← before ends then return .empty else node handles fuel position

/-- The key of a pair in a flow sequence. -/
def pairKey (handles : List (String × Tag)) (fuel : Nat) : Reader Node :=
  match fuel with
  | 0 => failure
  | fuel + 1 => do
    if ← before afterPairKey then
      advance
      return .empty
    else node handles fuel .flow

/-- The elements of a block sequence. -/
def blockItems (handles : List (String × Tag)) (fuel : Nat) (found : List Node) : Reader Node :=
  match fuel with
  | 0 => failure
  | fuel + 1 => do
    if ← accept .dash then
      let n ← nodeUnless handles fuel afterDash .block
      blockItems handles fuel (n :: found)
    else if ← accept .blockEnd then return .sequence found.reverse
    else failure

/-- The elements of a block sequence that is not indented more than its parent. -/
def bareItems (handles : List (String × Tag)) (fuel : Nat) (found : List Node) : Reader Node :=
  match fuel with
  | 0 => failure
  | fuel + 1 => do
    if ← accept .dash then
      let n ← nodeUnless handles fuel afterBareDash .block
      bareItems handles fuel (n :: found)
    else return .sequence found.reverse

/-- The members of a block mapping. -/
def blockMembers (handles : List (String × Tag)) (fuel : Nat) (found : List (Node × Node)) :
    Reader Node :=
  match fuel with
  | 0 => failure
  | fuel + 1 => do
    if ← accept .blockEnd then return .mapping found.reverse
    else
      let k ← if ← accept .key then nodeUnless handles fuel afterMember .member else failure
      let v ← if ← accept .value then nodeUnless handles fuel afterMember .member
        else pure Node.empty
      blockMembers handles fuel ((k, v) :: found)

/-- The elements of a flow sequence; an element may be a mapping with a single member. -/
def flowItems (handles : List (String × Tag)) (fuel : Nat) (found : List Node) : Reader Node :=
  match fuel with
  | 0 => failure
  | fuel + 1 => do
    if ← accept .flowSequenceEnd then return .sequence found.reverse
    else
      let separated ← if found.isEmpty then pure true else accept .comma
      if !separated then failure
      else if ← accept .flowSequenceEnd then return .sequence found.reverse
      else if ← accept .key then
        let k ← pairKey handles fuel
        let v ← if ← accept .value then nodeUnless handles fuel afterPairValue .flow
          else pure Node.empty
        flowItems handles fuel (.mapping [(k, v)] :: found)
      else
        let n ← node handles fuel .flow
        flowItems handles fuel (n :: found)

/-- The members of a flow mapping. -/
def flowMembers (handles : List (String × Tag)) (fuel : Nat) (found : List (Node × Node)) :
    Reader Node :=
  match fuel with
  | 0 => failure
  | fuel + 1 => do
    if ← accept .flowMappingEnd then return .mapping found.reverse
    else
      let separated ← if found.isEmpty then pure true else accept .comma
      if !separated then failure
      else if ← accept .flowMappingEnd then return .mapping found.reverse
      else if ← accept .key then
        let k ← nodeUnless handles fuel afterFlowKey .flow
        let v ← if ← accept .value then nodeUnless handles fuel afterFlowValue .flow
          else pure Node.empty
        flowMembers handles fuel ((k, v) :: found)
      else
        let k ← node handles fuel .flow
        flowMembers handles fuel ((k, .empty) :: found)

end

/-! ## Documents -/

/-- The directives in front of a document: the handles of tags, and whether there was a version.
A version must be 1.1 or 1.2, and no directive may be repeated. -/
def directives : Nat → List (String × Tag) → Bool → Reader (List (String × Tag) × Bool)
  | 0, _, _ => failure
  | fuel + 1, handles, versioned => do
    match ← peek? with
    | some (.version major minor) =>
      advance
      if versioned || major ≠ 1 || (minor ≠ 1 && minor ≠ 2) then failure
      else directives fuel handles true
    | some (.handle name meaning) =>
      advance
      if (handles.lookup name).isSome then failure
      else directives fuel ((name, meaning) :: handles) versioned
    | _ => return (handles, versioned)

/-- Markers up to the end of the tokens. -/
def markers : Nat → Reader Unit
  | 0 => failure
  | fuel + 1 => do
    if ← accept .documentEnd then markers fuel
    else if (← get).tokens.isEmpty then return ()
    else failure

/-- The document that all tokens make up. Without tokens it is the empty node; it may be closed by
markers, but no other document may follow. -/
def document (fuel : Nat) : Reader Node := do
  if (← get).tokens.isEmpty then return .empty
  else
    let (handles, versioned) ← directives fuel [] false
    let started ← accept .documentStart
    if !started && (versioned || !handles.isEmpty) then failure
    else
      let known := handles ++ standardHandles
      let n ← if started then nodeUnless known fuel [.documentStart, .documentEnd] .block
        else node known fuel .block
      markers fuel
      return n

end Reading

/-- The document that a text holds; a text with nothing but comments holds the empty node. -/
def parse? (s : String) : Option Document :=
  match Token.scan? s with
  | none => none
  | some tokens =>
    ((Reading.document (4 * tokens.length + 8)).run { tokens := tokens }).map fun (root, after) =>
      ⟨root, after.targets.map Prod.snd⟩

end DataGrid.Yaml
