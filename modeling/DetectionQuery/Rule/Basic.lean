import DetectionQuery.Query.Condition
import DetectionQuery.Rule.Correlation
import DetectionQuery.Rule.LogSource

/-!
Rules: detections and correlations with what is said about them.
-/

namespace DetectionQuery.Rule

open DetectionQuery.Query (Condition)

/-- The maturity of a rule. -/
inductive Status where
  | stable
  | test
  | experimental
  | deprecated
  | unsupported
deriving DecidableEq, Repr

namespace Status

def names : List String := ["stable", "test", "experimental", "deprecated", "unsupported"]

def parse? : String → Option Status
  | "stable" => some .stable
  | "test" => some .test
  | "experimental" => some .experimental
  | "deprecated" => some .deprecated
  | "unsupported" => some .unsupported
  | _ => none

def toText : Status → String
  | .stable => "stable"
  | .test => "test"
  | .experimental => "experimental"
  | .deprecated => "deprecated"
  | .unsupported => "unsupported"

end Status

/-- What is said about a rule besides its title, each part of which may be left out. -/
structure Metadata where
  id : Option String
  name : Option String
  description : Option String
  references : Option (List String)
  author : Option String
  date : Option String
  modified : Option String
  status : Option Status
  license : Option String
  tags : Option (List String)
  falsePositives : Option (List String)
  level : Option String

/-- What a rule asks for. -/
inductive Body where
  /-- One condition tree for each condition of a detection. -/
  | detection (source : LogSource) (conditions : List Condition)
  | correlation (correlation : Correlation)

end DetectionQuery.Rule

namespace DetectionQuery

structure Rule extends Rule.Metadata where
  title : String
  body : Rule.Body

namespace Rule

/-- The name by which events of a rule are told apart: its name, or else its id. -/
def identifier (rule : Rule) : Option String :=
  rule.name.or rule.id

def isReferencedBy (rule : Rule) (reference : String) : Bool :=
  rule.id == some reference || rule.name == some reference

end Rule

end DetectionQuery
