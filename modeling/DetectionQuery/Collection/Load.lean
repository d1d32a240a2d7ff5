import DetectionQuery.Collection
import DetectionQuery.Folder.Search
import DetectionQuery.Notice

/-!
Loading the rules of all files below a path.

A file that cannot be read, or that holds something else than rules, is reported and passed over.
-/

namespace DetectionQuery.Collection

open DetectionQuery.Folder (Entry Place)

def filePattern (path : String) : String :=
  path ++ "/**/*.yml"

/-- The rules of a file, or the report that it has none. -/
def ofFile (place : Place) : Except Notice Collection :=
  match place.entry with
  | .file (some text) =>
    match ofText text with
    | .ok collection => .ok collection
    | .error _ => .error (.invalidFile place.path)
  | _ => .error (.unreadableFile place.path)

def ofFiles : List Place → Collection × List Notice
  | [] => (empty, [])
  | place :: rest =>
    let (collection, notices) := ofFiles rest
    match ofFile place with
    | .ok first => (first ++ collection, notices)
    | .error notice => (collection, notice :: notices)

/-- The rules of all files below a path, with the reports on what was passed over. -/
def load (root : Entry) (path : String) : Except Error (Collection × List Notice) :=
  match Folder.search root (filePattern path) with
  | .ok places => .ok (ofFiles places)
  | .error fault => .error (.invalidPattern fault)

end DetectionQuery.Collection
