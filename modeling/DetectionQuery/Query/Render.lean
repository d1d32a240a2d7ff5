import DetectionQuery.Query.Fragment
import DetectionQuery.Query.Literal

/-!
Conditions written as queries.

`Dialect.renderLeaf` writes one leaf and is where all errors arise; `Dialect.render` puts the
queries of a group's members under the group's operator. A negation is written as "none of": over an
alternative it takes the alternatives themselves, over anything else its only child.
-/

namespace DetectionQuery.Query

/-- The texts among alternatives after the first one, which has the shape of `first`: all of them
are texts of that shape. -/
def checkAlternatives (first : Pattern) : List Value → Except Error Unit
  | [] => .ok ()
  | .text other :: rest =>
    if other.shape = first.shape then checkAlternatives first rest
    else .error (.alternativeShapes first.text other.text)
  | value :: _ => .error (.alternativeNotText value)

/-- The alternative that stands for all: the first one, if all are texts of one shape. -/
def representative : List Value → Except Error Pattern
  | [] => .error .noAlternatives
  | .text first :: rest => do
    checkAlternatives first rest
    return first
  | value :: _ => .error (.alternativeNotText value)

namespace Dialect

/-- The field, written as given, matches a pattern. -/
def renderPattern (dialect : Dialect) (field : String) (pattern : Pattern) : String :=
  let token := dialect.regexToken
  match pattern.shape with
  | .contains => Fragment.contains field token (dialect.escaped true pattern.literal)
  | .endsWith => Fragment.endsWith field token (dialect.escaped true pattern.literal)
  | .startsWith => Fragment.startsWith field token (dialect.escaped true pattern.literal)
  | .equals => Fragment.fieldText field (dialect.escaped false pattern.literal)

/-- The field, written as given, has one of several values. -/
def renderOneOf (dialect : Dialect) (field : String) (values : List Value) : String :=
  Fragment.oneOf field dialect.inToken (dialect.literals values) dialect.listSeparator

/-- A field has a value. An expression of a rule is matched as literal text. -/
def renderEquals (dialect : Dialect) (field : String) (value : Value) : Except Error String := do
  let field ← dialect.fieldName field
  match value with
  | .text pattern => return dialect.renderPattern field pattern
  | .regex expression =>
    return Fragment.contains field dialect.regexToken (dialect.escaped true expression)
  | .list values => return dialect.renderOneOf field values
  | .expansion alternatives => return dialect.renderPattern field (← representative alternatives)
  | .fieldRef other => return Fragment.sameField field (← dialect.fieldName other)
  | .bool _ => return Fragment.fieldValue field (dialect.literal value)
  | .number _ => return Fragment.fieldValue field (dialect.literal value)

def renderLeaf (dialect : Dialect) : Leaf → Except Error String
  | .equals none value => .ok (Fragment.keyword (dialect.literal value))
  | .equals (some field) value => dialect.renderEquals field value
  | .compare field comparison value => do
    let field ← dialect.fieldName field
    return Fragment.compare field (dialect.comparisonToken comparison) value.toText
  | .isNull field => do
    let field ← dialect.fieldName field
    return Fragment.isNull field
  | .fieldExists field expected => do
    let field ← dialect.fieldName field
    return Fragment.fieldExists field (dialect.boolToken expected)

mutual

/-- A condition as a query; the error is that of the leftmost leaf that has one. -/
def render (dialect : Dialect) : Condition → Except Error String
  | .and children => do
    return Fragment.group dialect.andToken (← dialect.renderAll children) dialect.listSeparator
  | .or children => do
    return Fragment.group dialect.orToken (← dialect.renderAll children) dialect.listSeparator
  | .not (.or alternatives) => do
    -- The operator denies each of its members, so the alternatives need no group of their own.
    return Fragment.group dialect.notToken (← dialect.renderAll alternatives) dialect.listSeparator
  | .not child => do
    return Fragment.group dialect.notToken [← dialect.render child] dialect.listSeparator
  | .leaf leaf => dialect.renderLeaf leaf

def renderAll (dialect : Dialect) : List Condition → Except Error (List String)
  | [] => .ok []
  | child :: rest => do
    let query ← dialect.render child
    return query :: (← dialect.renderAll rest)

end

/-- A field matches a regular expression, taken as it is. -/
def renderRegex (dialect : Dialect) (field expression : String) : Except Error String := do
  let field ← dialect.fieldName field
  return Fragment.fieldRegex field dialect.regexToken expression

def renderMembership (dialect : Dialect) (field : String) (values : List Value) :
    Except Error String := do
  let field ← dialect.fieldName field
  return dialect.renderOneOf field values

end Dialect

end DetectionQuery.Query
