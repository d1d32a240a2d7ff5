import DetectionQuery.Query.Condition

/-!
The tokens of a query dialect.

A dialect names its operators and says how text is quoted and escaped. `Dialect.mongoDB` is the one
that queries are written in unless another is given.
-/

namespace DetectionQuery.Query

/-- The tokens and escaping rules of a query dialect. -/
structure Dialect where
  andToken : String
  orToken : String
  /-- Holds when none of its members does; every negation is written with it. -/
  notToken : String
  inToken : String
  regexToken : String
  ltToken : String
  lteToken : String
  gtToken : String
  gteToken : String
  eqToken : String
  trueToken : String
  falseToken : String
  quote : Char
  escape : Char
  /-- The characters with a meaning in regular expressions, besides the quote and the escape. -/
  regexSpecial : String
  listSeparator : String
  /-- Put around field names that are more than words and points. -/
  fieldQuote : String
deriving DecidableEq, Repr

namespace Dialect

/-- The dialect of MongoDB. -/
def mongoDB : Dialect where
  andToken := "$and"
  orToken := "$or"
  notToken := "$nor"
  inToken := "$in"
  regexToken := "$regex"
  ltToken := "$lt"
  lteToken := "$lte"
  gtToken := "$gt"
  gteToken := "$gte"
  eqToken := "$eq"
  trueToken := "true"
  falseToken := "false"
  quote := '"'
  escape := '\\'
  regexSpecial := ".?()[]\x7b\x7d+*^$|"
  listSeparator := ", "
  fieldQuote := ""

def comparisonToken (dialect : Dialect) : Comparison → String
  | .lt => dialect.ltToken
  | .lte => dialect.lteToken
  | .gt => dialect.gtToken
  | .gte => dialect.gteToken
  | .eq => dialect.eqToken

def boolToken (dialect : Dialect) (value : Bool) : String :=
  if value then dialect.trueToken else dialect.falseToken

end Dialect

end DetectionQuery.Query
