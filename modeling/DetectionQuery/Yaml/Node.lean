import DetectionQuery.Yaml.Scalar
import DetectionQuery.Yaml.Token

/-!
Nodes of a YAML document, as they are written.

A node keeps the spelling, the style and the tag of its scalars, because a record may ask for a
scalar as text whatever its spelling. `Node.value?` gives the value that a node stands for when
nothing is asked; `Node.untaggedValue?` is for places where a document's own tags are refused.
-/

namespace DetectionQuery.Yaml

/-- A node of a document. -/
inductive Node where
  /-- The node of a document with nothing in it. -/
  | void
  | scalar (tag : Option Tag) (style : Style) (text : String)
  | sequence (tag : Option Tag) (items : List Node)
  | mapping (tag : Option Tag) (entries : List (Node × Node))
  /-- A reference to the node of an anchor, which stands for nothing until it is replaced. -/
  | alias (anchor : Nat)
deriving Repr

namespace Node

/-- The node of an omitted value. -/
def empty : Node := .scalar none .plain ""

def text? : Node → Option String
  | .scalar _ _ text => some text
  | _ => none

/-- The name of a tag that is the document's own. -/
def ownTag? : Option Tag → Option String
  | some (.own name) => some name
  | _ => none

/-- The value of a scalar, apart from a tag of the document's own. -/
def scalarValue? (tag : Option Tag) (style : Style) (text : String) : Option Value :=
  match tag with
  | some (.other type) => typedScalar? (.other type) text
  | _ => if style = .plain then plainValue? text else some (.text text)

mutual

/-- The value that a node stands for. Two entries of a mapping with one key stand for no value. -/
def value? : Node → Option Value
  | .void => some .null
  | .scalar tag style text =>
    match ownTag? tag with
    | some name => (scalarValue? none style text).map (.tagged name)
    | none => scalarValue? tag style text
  | .sequence tag items =>
    let value := (values? items).map Value.sequence
    match ownTag? tag with
    | some name => value.map (.tagged name)
    | none => value
  | .mapping tag entries =>
    let value := (entryValues? entries []).map Value.mapping
    match ownTag? tag with
    | some name => value.map (.tagged name)
    | none => value
  | .alias _ => none

def values? : List Node → Option (List Value)
  | [] => some []
  | node :: rest => do
    let value ← node.value?
    return value :: (← values? rest)

/-- The entries of a mapping whose earlier keys are `seen`. -/
def entryValues? : List (Node × Node) → List Value → Option (List (Value × Value))
  | [], _ => some []
  | (key, node) :: rest, seen => do
    let key ← key.value?
    if seen.any key.same then none
    let value ← node.value?
    return (key, value) :: (← entryValues? rest (key :: seen))

end

mutual

/-- The value that a node stands for where the document's own tags are refused. Repeated keys are
all kept. -/
def untaggedValue? : Node → Option Value
  | .void => some .null
  | .scalar tag style text =>
    if (ownTag? tag).isSome then none else scalarValue? tag style text
  | .sequence tag items =>
    if (ownTag? tag).isSome then none else (untaggedValues? items).map Value.sequence
  | .mapping tag entries =>
    if (ownTag? tag).isSome then none else (untaggedEntries? entries).map Value.mapping
  | .alias _ => none

def untaggedValues? : List Node → Option (List Value)
  | [] => some []
  | node :: rest => do
    let value ← node.untaggedValue?
    return value :: (← untaggedValues? rest)

def untaggedEntries? : List (Node × Node) → Option (List (Value × Value))
  | [] => some []
  | (key, node) :: rest => do
    let key ← key.untaggedValue?
    let value ← node.untaggedValue?
    return (key, value) :: (← untaggedEntries? rest)

end

mutual

/-- A node with its references replaced, and the number of references met on the way; `target` gives
the node of an anchor and the number of references in it. -/
def replaced (target : Nat → Node × Nat) : Node → Node × Nat
  | .sequence tag items =>
    let (items, count) := replacedItems target items
    (.sequence tag items, count)
  | .mapping tag entries =>
    let (entries, count) := replacedEntries target entries
    (.mapping tag entries, count)
  | .alias anchor =>
    let (node, count) := target anchor
    (node, count + 1)
  | node => (node, 0)

def replacedItems (target : Nat → Node × Nat) : List Node → List Node × Nat
  | [] => ([], 0)
  | node :: rest =>
    let (node, count) := replaced target node
    let (rest, more) := replacedItems target rest
    (node :: rest, count + more)

def replacedEntries (target : Nat → Node × Nat) :
    List (Node × Node) → List (Node × Node) × Nat
  | [] => ([], 0)
  | (key, node) :: rest =>
    let (key, inKey) := replaced target key
    let (node, inNode) := replaced target node
    let (rest, more) := replacedEntries target rest
    ((key, node) :: rest, inKey + inNode + more)

end

mutual

/-- The number of places in the text that a node takes up: one for a scalar or a reference, two for
the ends of a collection. -/
def extent : Node → Nat
  | .sequence _ items => 2 + extentItems items
  | .mapping _ entries => 2 + extentEntries entries
  | _ => 1

def extentItems : List Node → Nat
  | [] => 0
  | node :: rest => node.extent + extentItems rest

def extentEntries : List (Node × Node) → Nat
  | [] => 0
  | (key, node) :: rest => key.extent + node.extent + extentEntries rest

end

mutual

/-- How deep collections are nested in a node. -/
def depth : Node → Nat
  | .sequence _ items => 1 + depthItems items
  | .mapping _ entries => 1 + depthEntries entries
  | _ => 0

def depthItems : List Node → Nat
  | [] => 0
  | node :: rest => max node.depth (depthItems rest)

def depthEntries : List (Node × Node) → Nat
  | [] => 0
  | (key, node) :: rest => max (max key.depth node.depth) (depthEntries rest)

end

end Node

end DetectionQuery.Yaml
