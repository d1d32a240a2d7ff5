import DetectionQuery.Folder.Entry
import DetectionQuery.Glob.Match

/-!
Searching a folder for paths that match a pattern.

The components of a pattern are searched for one after the other, each below what the one before has
found. A component without wildcards is looked up by its name, others are matched with the names
that are there; a component behind `**` is matched with all names below. Paths are found in the
order of their names, and spelled as the pattern spells them.
-/

namespace DetectionQuery.Folder

open DetectionQuery.Glob (Token Fault)

/-- A place below a folder. -/
structure Place where
  /-- How the path to it is spelled. -/
  path : String
  /-- The names that lead to it. -/
  trail : List String
  entry : Entry

/-- One component of a pattern. -/
structure Component where
  /-- Whether any folders may stand before it. -/
  anywhere : Bool
  tokens : List Token

namespace Component

/-- The components of a pattern, with `**` told from the others. -/
def ofTokens (anywhere : Bool) : List (List Token) → List Component
  | [] => []
  | [.anyRecursive] :: rest => ofTokens true rest
  | tokens :: rest => ⟨anywhere, tokens⟩ :: ofTokens false rest

/-- The name that a component without wildcards stands for. -/
def literal? (tokens : List Token) : Option String := do
  let chars ← tokens.mapM fun
    | .char c => some c
    | _ => none
  return String.ofList chars

end Component

namespace Place

/-- The path of the folder that is searched. -/
def here : String := "."

def join (path name : String) : String :=
  if path.toList.getLast? = some '/' then path ++ name else path ++ "/" ++ name

/-- A path to a name in the folder at a path. -/
def extend (path name : String) : String :=
  if path = here then name else join path name

/-- The place that a dot or two dots stand for, spelled as `path`. -/
def dots? (place : Place) (root : Entry) (path : String) : String → Option Place
  | "." => if place.entry.isFolder then some ⟨path, place.trail, place.entry⟩ else none
  | _ =>
    if place.entry.isFolder && !place.trail.isEmpty then
      let trail := place.trail.dropLast
      (root.at? trail).map (⟨path, trail, ·⟩)
    else none

/-- The place that a name stands for. An empty name stands for the folder itself. -/
def named? (place : Place) (root : Entry) (name : String) : Option Place :=
  let path := extend place.path name
  if name = "." || name = ".." then place.dots? root path name
  else if name.isEmpty then
    if place.entry.isFolder && !path.isEmpty then some { place with path } else none
  else (place.entry.at? [name]).map (⟨path, place.trail ++ [name], ·⟩)

/-- The entries of a place whose names match. A dot or two dots match only if the pattern starts
with a dot. -/
def matching (place : Place) (root : Entry) (tokens : List Token) : List Place :=
  let dots := if tokens.head? = some (.char '.') then
      ["..", "."].filter (Glob.isMatch tokens) |>.filterMap fun name =>
        place.dots? root (join place.path name) name
    else []
  dots ++ (place.entry.entries.filter fun (name, _) => Glob.isMatch tokens name).map
    fun (name, entry) => ⟨extend place.path name, place.trail ++ [name], entry⟩

def matchingBelow (place : Place) (tokens : List Token) : List Place :=
  (place.entry.descendants []).filterMap fun (trail, entry) =>
    if Glob.isMatch tokens (trail.getLast?.getD "") then
      some ⟨trail.foldl extend place.path, place.trail ++ trail, entry⟩
    else none

def found (place : Place) (root : Entry) (component : Component) : List Place :=
  if component.anywhere then place.matchingBelow component.tokens
  else
    match Component.literal? component.tokens with
    | some name => (place.named? root name).toList
    | none => place.matching root component.tokens

def search (root : Entry) : List Component → Place → List Place
  | [], place => [place]
  | component :: rest, place => (place.found root component).flatMap (search root rest)

end Place

/-- The components of a path pattern. A separator at its end opens no further component. -/
def splitPath (pattern : List Char) : List (List Char) :=
  let parts := pattern.foldr (fun c parts =>
    if c = '/' then [] :: parts
    else
      match parts with
      | part :: rest => (c :: part) :: rest
      | [] => [[c]]) [[]]
  if parts.getLast? = some [] then parts.dropLast else parts

/-- The places in a folder whose paths match a pattern. A path that starts with a separator leads
out of the folder. -/
def search (root : Entry) (pattern : String) : Except Fault (List Place) := do
  -- The whole pattern is read first, so that the position of a fault is one in the pattern.
  let _ ← Glob.parse pattern
  let components ← (splitPath pattern.toList).mapM fun part => Glob.parse (String.ofList part)
  if pattern.toList.head? = some '/' then return []
  else return Place.search root (Component.ofTokens false components) ⟨Place.here, [], root⟩

end DetectionQuery.Folder
