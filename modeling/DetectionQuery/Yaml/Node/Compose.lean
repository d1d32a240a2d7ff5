import DetectionQuery.Yaml.Node

/-!
Nodes composed from tokens.

Where a token is missing the value is an empty scalar: behind a dash, a key or a colon with nothing
behind it. A sequence under a key may stand at the column of the key, where no token opens or closes
it.

The composing functions take a step bound that the number of tokens provides, and return nothing if
the tokens follow no grammar rule or end early.
-/

namespace DetectionQuery.Yaml

/-- Tokens that are composed as far as those that are left. -/
structure Composer where
  tokens : List Token
  /-- The tag handles of the document with what they stand for. -/
  handles : List (String × TagText)
  /-- The anchors met so far by name, the latest first. -/
  anchors : List (String × Nat)
  /-- Which anchored node each anchor refers to, the latest first. -/
  targets : List (Nat × Nat)
  /-- The nodes with an anchor, by the order in which they start. -/
  anchored : List (Nat × Node)
  /-- The number of nodes with an anchor that have started. -/
  started : Nat

/-- What may stand before the content of a node. -/
structure Properties where
  anchor : Option String
  tag : Option (String × TagText)

namespace Composer

def next (composer : Composer) : Composer :=
  { composer with tokens := composer.tokens.drop 1 }

def peek (composer : Composer) : Option Token :=
  composer.tokens.head?

def sees (composer : Composer) (tokens : List Token) : Bool :=
  composer.peek.any tokens.contains

/-- The anchor and the tag before the content of a node, in either order. -/
def properties (composer : Composer) : Properties × Composer :=
  match composer.tokens with
  | .anchor name :: .tag handle suffix :: rest =>
    (⟨some name, some (handle, suffix)⟩, { composer with tokens := rest })
  | .tag handle suffix :: .anchor name :: rest =>
    (⟨some name, some (handle, suffix)⟩, { composer with tokens := rest })
  | .anchor name :: rest => (⟨some name, none⟩, { composer with tokens := rest })
  | .tag handle suffix :: rest => (⟨none, some (handle, suffix)⟩, { composer with tokens := rest })
  | _ => (⟨none, none⟩, composer)

/-- The tag that a handle and a suffix stand for. -/
def tag? (composer : Composer) (handle : String) (suffix : TagText) : Option Tag :=
  if handle.isEmpty then some (.ofText suffix)
  else (composer.handles.lookup handle).map fun stem => .ofText (stem ++ suffix)

/-- Starts a node with an anchor. Anchors are numbered by how many names are in use, so that one
whose name is used again shares its number with the next new name. -/
def startAnchor (composer : Composer) (name : String) : Composer :=
  let number := (composer.anchors.map Prod.fst).eraseDups.length
  { composer with
    anchors := (name, number) :: composer.anchors
    targets := (number, composer.started) :: composer.targets
    started := composer.started + 1 }

mutual

/-- Composes a node. `block` admits block collections, and `indentless` a sequence at the column of
its key. -/
def node (block indentless : Bool) : Nat → Composer → Option (Node × Composer)
  | 0, _ => none
  | steps + 1, composer =>
    match composer.peek with
    | some (.alias name) => do
      let anchor ← composer.anchors.lookup name
      return (.alias anchor, composer.next)
    | _ => do
      let (properties, composer) := composer.properties
      let tag ← match properties.tag with
        | some (handle, suffix) => (composer.tag? handle suffix).map some
        | none => some none
      match properties.anchor with
      | none => content block indentless properties.tag.isSome tag steps composer
      | some name =>
        let order := composer.started
        let (node, composer) ←
          content block indentless true tag steps (composer.startAnchor name)
        return (node, { composer with anchored := (order, node) :: composer.anchored })

/-- Composes the content of a node; `optional` says that it may be left out. -/
def content (block indentless optional : Bool) (tag : Option Tag) :
    Nat → Composer → Option (Node × Composer)
  | 0, _ => none
  | steps + 1, composer =>
    match composer.peek with
    | some (.scalar style text) => some (.scalar tag style text, composer.next)
    | some .flowSequenceStart => do
      let (items, composer) ← flowItems true steps composer.next
      return (.sequence tag items, composer)
    | some .flowMappingStart => do
      let (entries, composer) ← flowEntries true steps composer.next
      return (.mapping tag entries, composer)
    | some .blockEntry =>
      if indentless then do
        let (items, composer) ← indentlessItems steps composer
        return (.sequence tag items, composer)
      else if optional then some (.scalar tag .plain "", composer)
      else none
    | some .blockSequenceStart =>
      if block then do
        let (items, composer) ← blockItems steps composer.next
        return (.sequence tag items, composer)
      else if optional then some (.scalar tag .plain "", composer)
      else none
    | some .blockMappingStart =>
      if block then do
        let (entries, composer) ← blockEntries steps composer.next
        return (.mapping tag entries, composer)
      else if optional then some (.scalar tag .plain "", composer)
      else none
    | some _ => if optional then some (.scalar tag .plain "", composer) else none
    | none => none

/-- Composes a node, or an empty one if the next token is among those that can follow it. -/
def nodeUnless (followers : List Token) (block indentless : Bool) :
    Nat → Composer → Option (Node × Composer)
  | 0, _ => none
  | steps + 1, composer =>
    if composer.tokens.isEmpty then none
    else if composer.sees followers then some (.empty, composer)
    else node block indentless steps composer

def blockItems : Nat → Composer → Option (List Node × Composer)
  | 0, _ => none
  | steps + 1, composer =>
    match composer.peek with
    | some .blockEntry => do
      let (item, composer) ←
        nodeUnless [.blockEntry, .blockEnd] true false steps composer.next
      let (items, composer) ← blockItems steps composer
      return (item :: items, composer)
    | some .blockEnd => some ([], composer.next)
    | _ => none

/-- The items of a sequence at the column of its key. -/
def indentlessItems : Nat → Composer → Option (List Node × Composer)
  | 0, _ => none
  | steps + 1, composer =>
    match composer.peek with
    | some .blockEntry => do
      let (item, composer) ←
        nodeUnless [.blockEntry, .key, .value, .blockEnd] true false steps composer.next
      let (items, composer) ← indentlessItems steps composer
      return (item :: items, composer)
    | some _ => some ([], composer)
    | none => none

def blockEntries : Nat → Composer → Option (List (Node × Node) × Composer)
  | 0, _ => none
  | steps + 1, composer =>
    match composer.peek with
    | some .key => do
      let (key, composer) ← nodeUnless [.key, .value, .blockEnd] true true steps composer.next
      let (value, composer) ← valueNode [.key, .value, .blockEnd] true true steps composer
      let (entries, composer) ← blockEntries steps composer
      return ((key, value) :: entries, composer)
    | some .blockEnd => some ([], composer.next)
    | _ => none

/-- The value behind a key, which is empty if no colon follows. -/
def valueNode (followers : List Token) (block indentless : Bool) :
    Nat → Composer → Option (Node × Composer)
  | 0, _ => none
  | steps + 1, composer =>
    match composer.peek with
    | some .value => nodeUnless followers block indentless steps composer.next
    | some _ => some (.empty, composer)
    | none => none

/-- The items of a sequence in brackets; `first` says that no comma is due. -/
def flowItems (first : Bool) : Nat → Composer → Option (List Node × Composer)
  | 0, _ => none
  | steps + 1, composer =>
    if composer.sees [.flowSequenceEnd] then some ([], composer.next)
    else if !first && !composer.sees [.flowEntry] then none
    else
      let composer := if first then composer else composer.next
      match composer.peek with
      | some .flowSequenceEnd => some ([], composer.next)
      | some .key => do
        let (item, composer) ← flowPair steps composer.next
        let (items, composer) ← flowItems false steps composer
        return (item :: items, composer)
      | some _ => do
        let (item, composer) ← node false false steps composer
        let (items, composer) ← flowItems false steps composer
        return (item :: items, composer)
      | none => none

/-- A single entry of a mapping as an item of a sequence in brackets. If its key is left out, the
token behind the key is passed over. -/
def flowPair : Nat → Composer → Option (Node × Composer)
  | 0, _ => none
  | steps + 1, composer =>
    if composer.tokens.isEmpty then none
    else do
      let (key, composer) ←
        if composer.sees [.value, .flowEntry, .flowSequenceEnd] then some (.empty, composer.next)
        else node false false steps composer
      let (value, composer) ← valueNode [.flowEntry, .flowSequenceEnd] false false steps composer
      return (.mapping none [(key, value)], composer)

/-- The entries of a mapping in braces; `first` says that no comma is due. -/
def flowEntries (first : Bool) : Nat → Composer → Option (List (Node × Node) × Composer)
  | 0, _ => none
  | steps + 1, composer =>
    if composer.sees [.flowMappingEnd] then some ([], composer.next)
    else if !first && !composer.sees [.flowEntry] then none
    else
      let composer := if first then composer else composer.next
      match composer.peek with
      | some .flowMappingEnd => some ([], composer.next)
      | some .key => do
        let (key, composer) ←
          nodeUnless [.value, .flowEntry, .flowMappingEnd] false false steps composer.next
        let (value, composer) ← valueNode [.flowEntry, .flowMappingEnd] false false steps composer
        let (entries, composer) ← flowEntries false steps composer
        return ((key, value) :: entries, composer)
      | some _ => do
        let (key, composer) ← node false false steps composer
        let (entries, composer) ← flowEntries false steps composer
        return ((key, .empty) :: entries, composer)
      | none => none

end

end Composer

end DetectionQuery.Yaml
