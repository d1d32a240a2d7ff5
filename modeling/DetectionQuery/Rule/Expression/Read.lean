import DetectionQuery.Error
import DetectionQuery.Rule.Expression
import DetectionQuery.Rule.Expression.Token

/-!
Reading condition expressions.

From weakest to strongest bind `or`, `and`, `not` and the quantifiers `all of`, `any of` and `n of`;
connectives associate to the left. A word is a name unless it is a connective or `not`; where an
operand is expected, a quantifier is preferred to a name, so that `all of them` is never read as the
name `all`. A count may stand directly before its `of`, as in `1of them`.

The readers take a step bound that the length of the text provides; each returns the expression and
the tokens behind it.
-/

namespace DetectionQuery.Rule.Expression

open DetectionQuery.Query (Connective)

/-- The count of a word that is a run of digits directly followed by `of`. -/
def joinedCount? (word : List Char) : Option Nat :=
  if isKeyword "of" (word.dropWhile Text.isDigit) then
    Text.readDigits 10 (word.takeWhile Text.isDigit)
  else none

/-- The quantifier of a word that stands before a separate `of`. -/
def quantifierWord? (word : List Char) : Option Quantifier :=
  if isKeyword "all" word then some .all
  else if isKeyword "any" word then some (.count 1)
  else (Text.readDigits 10 word).map .count

/-- The quantifier at the start of the tokens, with the tokens behind it. -/
def quantifier? : List Token → Option (Quantifier × List Token)
  | .word word :: rest =>
    match joinedCount? word with
    | some least => some (.count least, rest)
    | none =>
      match rest with
      | .word next :: rest =>
        if isKeyword "of" next then (quantifierWord? word).map fun quantifier => (quantifier, rest)
        else none
      | _ => none
  | _ => none

def connective? (word : List Char) : Option Connective :=
  if isKeyword "and" word then some .and
  else if isKeyword "or" word then some .or
  else none

mutual

/-- Reads an operand: a name or a parenthesised expression behind any number of `not` and
quantifiers. -/
def readOperand : Nat → List Token → Option (Expression × List Token)
  | 0, _ => none
  | steps + 1, tokens =>
    match quantifier? tokens with
    | some (quantifier, rest) => do
      let (operand, rest) ← readOperand steps rest
      return (.quantified quantifier operand, rest)
    | none =>
      match tokens with
      | .word word :: rest =>
        if isKeyword "not" word then do
          let (operand, rest) ← readOperand steps rest
          return (.not operand, rest)
        else if (connective? word).isSome then none
        else some (.name (String.ofList word), rest)
      | .opening :: rest =>
        match readChain steps .or rest with
        | some (expression, .closing :: rest) => some (expression, rest)
        | _ => none
      | _ => none

/-- Reads one operand of a chain: for `or` a chain joined by `and`, for `and` an operand. -/
def readLink : Nat → Connective → List Token → Option (Expression × List Token)
  | 0, _, _ => none
  | steps + 1, .or, tokens => readChain steps .and tokens
  | steps + 1, .and, tokens => readOperand steps tokens

/-- Reads a chain of one or more operands joined by a connective. -/
def readChain : Nat → Connective → List Token → Option (Expression × List Token)
  | 0, _, _ => none
  | steps + 1, connective, tokens => do
    let (first, rest) ← readLink steps connective tokens
    readChainFrom steps connective first rest

/-- Continues a chain whose operands so far are `left`. -/
def readChainFrom : Nat → Connective → Expression → List Token → Option (Expression × List Token)
  | 0, _, _, _ => none
  | steps + 1, connective, left, tokens =>
    match tokens with
    | .word word :: rest =>
      if connective? word = some connective then do
        let (right, rest) ← readLink steps connective rest
        readChainFrom steps connective (.binary connective left right) rest
      else some (left, tokens)
    | _ => some (left, tokens)

end

/-- Reads an expression that takes up all the tokens. -/
def readAll (tokens : List Token) : Option Expression :=
  match readChain (5 * tokens.length + 5) .or tokens with
  | some (expression, []) => some expression
  | _ => none

/-- The greatest count of a quantifier. -/
def greatestCount : Nat := Nat.pow 2 63 - 1

/-- Reads the text of a condition. -/
def read (text : String) : Except Error Expression :=
  match (tokenize text.toList).bind readAll with
  | none => .error .malformedCondition
  | some expression =>
    if expression.countsAtMost greatestCount then .ok expression else .error .countTooLarge

end DetectionQuery.Rule.Expression
