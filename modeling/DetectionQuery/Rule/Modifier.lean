import DetectionQuery.Query.Condition

/-!
Modifiers of a selection item.

A key such as `CommandLine|contains|all` names a field and modifiers that say how its values are
compared. Several spellings may stand for one modifier; those that no query can express are known
but not supported.
-/

namespace DetectionQuery.Rule

open DetectionQuery.Query (Comparison)

/-- A modifier of a selection item. -/
inductive Modifier where
  | all
  | startsWith
  | endsWith
  | contains
  | fieldExists
  | cased
  | regex
  /-- A flag of a regular expression. -/
  | regexFlag
  | base64
  | base64Offset
  | wide
  | windowsDash
  | lt
  | lte
  | gt
  | gte
  | addressRange
  | expand
  | fieldRef
deriving DecidableEq, Repr

namespace Modifier

def parse? : String → Option Modifier
  | "all" => some .all
  | "startswith" => some .startsWith
  | "endswith" => some .endsWith
  | "contains" => some .contains
  | "exists" => some .fieldExists
  | "cased" => some .cased
  | "re" => some .regex
  | "i" | "m" | "s" => some .regexFlag
  | "base64" => some .base64
  | "base64offset" => some .base64Offset
  | "wide" | "utf16le" | "utf16be" | "utf16" => some .wide
  | "windash" => some .windowsDash
  | "lt" => some .lt
  | "lte" => some .lte
  | "gt" => some .gt
  | "gte" => some .gte
  | "cidr" => some .addressRange
  | "expand" => some .expand
  | "fieldref" => some .fieldRef
  | _ => none

def comparison? : Modifier → Option Comparison
  | .lt => some .lt
  | .lte => some .lte
  | .gt => some .gt
  | .gte => some .gte
  | _ => none

/-- Whether a query can express a modifier. -/
def supported : Modifier → Bool
  | .base64 | .base64Offset | .wide | .windowsDash | .addressRange | .expand => false
  | _ => true

def describe : Modifier → String
  | .all => "All"
  | .startsWith => "StartsWith"
  | .endsWith => "EndsWith"
  | .contains => "Contains"
  | .fieldExists => "Exists"
  | .cased => "Cased"
  | .regex => "Re"
  | .regexFlag => "ReFlag"
  | .base64 => "Base64"
  | .base64Offset => "Base64Offset"
  | .wide => "Wide"
  | .windowsDash => "WindAsh"
  | .lt => "Lt"
  | .lte => "Lte"
  | .gt => "Gt"
  | .gte => "Gte"
  | .addressRange => "Cidr"
  | .expand => "Expand"
  | .fieldRef => "FieldRef"

end Modifier

end DetectionQuery.Rule
