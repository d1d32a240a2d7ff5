import DetectionQuery.Glob.Match
import DetectionQuery.Query.Group
import DetectionQuery.Rule.Expression

/-!
Condition expressions over the selections of a detection.

A name stands for the first selection of that name. The target of a quantifier names the selections
whose name it matches as a wildcard pattern; `them` names all whose name does not start with a low
line. A chain of operands joined by one connective becomes one group.
-/

namespace DetectionQuery.Rule

open DetectionQuery.Query (Condition Connective)

abbrev NamedSelection := String × Condition

/-- The selections that the target of a quantifier names, in order. -/
def named (target : String) (selections : List NamedSelection) :
    Except Error (List Condition) :=
  if target = "them" then
    -- A selection whose name starts with an underscore is only reached by its name or a pattern.
    .ok ((selections.filter fun (name, _) => name.toList.head? ≠ some '_').map Prod.snd)
  else
    match Glob.parse target with
    | .ok pattern =>
      .ok ((selections.filter fun (name, _) => Glob.isMatch pattern name).map Prod.snd)
    | .error fault => .error (.invalidPattern fault)

namespace Expression

/-- The condition of a quantifier over the selections that a target names. -/
def resolveQuantified (quantifier : Quantifier) (target : String)
    (selections : List NamedSelection) : Except Error Condition := do
  let conditions ← named target selections
  if conditions.isEmpty then .error (.nothingNamed target)
  else
    match quantifier with
    | .all => Condition.group .and conditions
    | .count least =>
      if least = 1 then Condition.group .or conditions
      else .error (.unsupportedCount least target)

/-- The first selection of a name. -/
def resolveName (selections : List NamedSelection) (wanted : String) : Except Error Condition :=
  match selections.find? fun (other, _) => other = wanted with
  | some (_, condition) => .ok condition
  | none => .error (.unknownSelection wanted)

/-- The conditions that an expression adds to a group of the connective `context`: those of its
operands, from left to right, if it is itself joined by that connective, and otherwise its own. -/
def resolveUnder (selections : List NamedSelection) (context : Option Connective) :
    Expression → Except Error (List Condition)
  | .name wanted => do
    return [← resolveName selections wanted]
  | .not operand => do
    return (← resolveUnder selections none operand).map .not
  | .quantified quantifier (.name target) => do
    return [← resolveQuantified quantifier target selections]
  | .quantified _ _ => .error .operandNotName
  | .binary connective left right => do
    let first ← resolveUnder selections (some connective) left
    let second ← resolveUnder selections (some connective) right
    if context = some connective then return first ++ second
    else return [← Condition.group connective (first ++ second)]

/-- The condition of an expression over the selections. -/
def resolve (expression : Expression) (selections : List NamedSelection) :
    Except Error Condition := do
  Condition.group .and (← expression.resolveUnder selections none)

end Expression

end DetectionQuery.Rule
