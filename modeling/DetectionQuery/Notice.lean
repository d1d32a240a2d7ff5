import DetectionQuery.Text.Quoted

/-!
What is reported while rules are loaded and converted.
-/

namespace DetectionQuery

/-- A report on a rule, by its title, or on a file, by its path. -/
inductive Notice where
  | converting (title : String)
  /-- The rule is used by correlations only. -/
  | skipping (title : String)
  | unreadableFile (path : String)
  | invalidFile (path : String)
deriving DecidableEq, Repr

namespace Notice

def message : Notice → String
  | .converting title => "debug: converting rule " ++ Text.quoted title
  | .skipping title =>
    "debug: skipping rule " ++ Text.quoted title ++ ", only used by correlations"
  | .unreadableFile path => "warn: error reading file: " ++ path
  | .invalidFile path => "warn: error parsing rule: " ++ path

end Notice

end DetectionQuery
