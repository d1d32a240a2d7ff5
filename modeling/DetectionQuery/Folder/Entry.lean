/-!
Folders and their entries.
-/

namespace DetectionQuery.Folder

/-- What a folder holds. -/
inductive Entry where
  /-- A file with its text, if it holds text. -/
  | file (text : Option String)
  /-- A folder with its entries by name. -/
  | folder (entries : List (String × Entry))

namespace Entry

def empty : Entry := .folder []

def isFolder : Entry → Bool
  | .file _ => false
  | .folder _ => true

def entries : Entry → List (String × Entry)
  | .file _ => []
  | .folder entries => entries

/-- The entry at the end of a trail of names. -/
def at? : Entry → List String → Option Entry
  | entry, [] => some entry
  | entry, name :: trail => (entry.entries.lookup name).bind (·.at? trail)

/-- Entries with one put at its place in the order of names; it replaces one of the same name. -/
def put (name : String) (entry : Entry) : List (String × Entry) → List (String × Entry)
  | [] => [(name, entry)]
  | (other, old) :: rest =>
    if name < other then (name, entry) :: (other, old) :: rest
    else if name = other then (name, entry) :: rest
    else (other, old) :: put name entry rest

/-- An entry with another one put at the end of a trail of names, with the folders on the way. A
folder that is there already keeps its entries. -/
def insert (entry : Entry) : List String → Entry → Entry
  | [], new => if entry.isFolder && new.isFolder then entry else new
  | name :: trail, new =>
    let inner := ((entry.entries.lookup name).getD empty).insert trail new
    .folder (put name inner entry.entries)

mutual

/-- Everything below an entry, with the trail of names that leads there. A folder stands before its
entries, which are in order of their names. -/
def descendants (trail : List String) : Entry → List (List String × Entry)
  | .file _ => []
  | .folder entries => allDescendants trail entries

def allDescendants (trail : List String) : List (String × Entry) → List (List String × Entry)
  | [] => []
  | (name, entry) :: rest =>
    (trail ++ [name], entry) :: descendants (trail ++ [name]) entry ++ allDescendants trail rest

end

end Entry

end DetectionQuery.Folder
