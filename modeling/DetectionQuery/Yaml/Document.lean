import DetectionQuery.Yaml.Node.Compose
import DetectionQuery.Yaml.Token.Scan

/-!
The documents of a YAML text.

A text holds one or more documents, each but the first behind a marker line. A document that is
malformed ends the stream; the documents before it are whole. When a document is read, references
are replaced by the nodes of their anchors, within a bound on their number and on the depth of the
result.
-/

namespace DetectionQuery.Yaml

/-- The tag handles that every document has. -/
def standardHandles : List (String × TagText) :=
  [("!", [some '!']), ("!!", .ofList Tag.standardStem.toList)]

/-- The number of references that reading a document may follow for each place in its text. -/
def referencesPerPlace : Nat := 100

/-- How deep the collections that are read may be nested. -/
def greatestDepth : Nat := 128

/-- A document as it is written: its root, and the nodes that its references stand for. -/
structure Document where
  root : Node
  anchors : List (Nat × Node)

namespace Document

/-- The node of an anchor, as far as it is known. -/
def target (known : List (Nat × (Node × Nat))) (anchor : Nat) : Node × Nat :=
  (known.lookup anchor).getD (.alias anchor, 0)

/-- Replaces the references in the nodes of all anchors, once for each round, so that references
inside references are replaced as well. A node that contains itself keeps a reference. -/
def resolveAnchors (nodes : List (Nat × Node)) :
    Nat → List (Nat × (Node × Nat)) → List (Nat × (Node × Nat))
  | 0, known => known
  | rounds + 1, known =>
    resolveAnchors nodes rounds
      (nodes.map fun (anchor, node) => (anchor, node.replaced (target known)))

/-- The entries of a mapping with their references replaced, but for the values whose keys are not
read: an empty node stands for those. -/
def readEntries (target : Nat → Node × Nat) (isRead : Node → Bool) :
    List (Node × Node) → List (Node × Node) × Nat
  | [] => ([], 0)
  | (key, node) :: rest =>
    let (key, inKey) := key.replaced target
    let (node, inNode) := if isRead key then node.replaced target else (.empty, 0)
    let (rest, more) := readEntries target isRead rest
    ((key, node) :: rest, inKey + inNode + more)

/-- The root with its references replaced, as far as it is read; `isRead` tells the keys of its
entries whose values are. What is not read does not count towards the bounds on a document. -/
def part? (document : Document) (isRead : Node → Bool) : Option Node :=
  let target := target (resolveAnchors document.anchors document.anchors.length [])
  let (node, references) := match document.root with
    | .mapping tag entries =>
      let (entries, references) := readEntries target isRead entries
      (Node.mapping tag entries, references)
    | node => node.replaced target
  if references ≤ referencesPerPlace * document.root.extent && node.depth ≤ greatestDepth then
    some node
  else none

def whole? (document : Document) : Option Node :=
  document.part? fun _ => true

/-- A document that is a record with the given fields; the values of others are not read. -/
def record? (fields : List String) (document : Document) : Option Node :=
  document.part? fun key => key.text?.any fields.contains

end Document

namespace Composer

def anchorNodes (composer : Composer) : List (Nat × Node) :=
  let anchors := (composer.targets.map Prod.fst).eraseDups
  anchors.filterMap fun anchor => do
    let order ← composer.targets.lookup anchor
    let node ← composer.anchored.lookup order
    return (anchor, node)

def start (tokens : List Token) (handles : List (String × TagText)) : Composer :=
  ⟨tokens, handles, [], [], [], 0⟩

end Composer

/-- The directives before a document: whether a version is set, and the tag handles. A version other
than 1.1 and 1.2, a second version and a second meaning for a handle are malformed. -/
def readDirectives (versioned : Bool) (handles : List (String × TagText)) :
    List Token → Option (List (String × TagText) × List Token)
  | .version major minor :: rest =>
    if versioned || major ≠ 1 || (minor ≠ 1 && minor ≠ 2) then none
    else readDirectives true handles rest
  | .tagHandle handle stem :: rest =>
    if (handles.lookup handle).isSome then none
    else readDirectives versioned ((handle, stem) :: handles) rest
  | tokens => some (handles, tokens)

/-- Composes the content of a document up to its end; gives the tokens behind as well. -/
def readContent (handles : List (String × TagText)) (tokens : List Token) :
    Option (Document × List Token) := do
  let composer := Composer.start tokens (handles ++ standardHandles)
  let (root, composer) ← composer.node true false (4 * tokens.length + 4)
  let document := ⟨root, composer.anchorNodes⟩
  match composer.tokens with
  | [] => none
  | .documentEnd :: rest => return (document, rest)
  | rest => return (document, rest)

/-- Reads a document that starts with a marker line, behind its directives. -/
def readExplicit (tokens : List Token) : Option (Document × List Token) := do
  let (handles, tokens) ← readDirectives false [] tokens
  match tokens with
  | .documentStart :: rest =>
    match rest with
    | [] => none
    | .documentEnd :: rest => return (⟨.empty, []⟩, rest)
    | .version _ _ :: _ | .tagHandle _ _ :: _ | .documentStart :: _ | .streamEnd :: _ =>
      return (⟨.empty, []⟩, rest)
    | _ => readContent handles rest
  | _ => none

/-- The documents behind the first one; a malformed one is nothing, and the last. -/
def laterDocuments : Nat → List Token → List (Option Document)
  | 0, _ => [none]
  | steps + 1, tokens =>
    match tokens.dropWhile (· = .documentEnd) with
    | [.streamEnd] => []
    | tokens =>
      match readExplicit tokens with
      | some (document, rest) => some document :: laterDocuments steps rest
      | none => [none]

/-- The documents of a text; a malformed one is nothing, and the last. A text without content is one
document with nothing in it. -/
def documents (text : String) : List (Option Document) :=
  let tokens := tokens text
  let steps := tokens.length + 1
  let first := match tokens with
    | .version _ _ :: _ | .tagHandle _ _ :: _ | .documentStart :: _ => readExplicit tokens
    | [.streamEnd] => some (⟨.void, []⟩, tokens)
    | tokens => readContent [] tokens
  match first with
  | some (document, rest) => some document :: laterDocuments steps rest
  | none => [none]

def document? (text : String) : Option Document :=
  match documents text with
  | [document] => document
  | _ => none

end DetectionQuery.Yaml
