import DetectionQuery.Query.Dialect
import DetectionQuery.Error
import DetectionQuery.Text.Word

/-!
Literals and names of a query.

`Dialect.escaped` prepares text for a place between quotes, once for plain text and once for a
regular expression that is itself written between quotes. `Dialect.literal` writes a whole value,
and `Dialect.fieldName` admits the field names that cannot end the literal they are put into.
-/

namespace DetectionQuery.Query.Dialect

/-- One character of a text between quotes. In a regular expression, a character with a meaning is
escaped for the expression, and that escape once more for the quotes. -/
def escapedChar (dialect : Dialect) (inRegex : Bool) (c : Char) : List Char :=
  if c = dialect.escape then List.replicate (if inRegex then 4 else 2) dialect.escape
  else if c = dialect.quote then [dialect.escape, c]
  else if inRegex && dialect.regexSpecial.toList.contains c then [dialect.escape, dialect.escape, c]
  else [c]

/-- A text as it is written between quotes, as plain text or as a regular expression. -/
def escaped (dialect : Dialect) (inRegex : Bool) (text : String) : String :=
  String.ofList (text.toList.flatMap (dialect.escapedChar inRegex))

/-- Whether a text already stands between quotes: it has at least two bytes and a quote at either
end. -/
def isQuoted (dialect : Dialect) (text : String) : Bool :=
  2 ≤ text.utf8ByteSize && text.toList.head? == some dialect.quote &&
    text.toList.getLast? == some dialect.quote

/-- A text between quotes. A text that already is one stays as it is; otherwise each quote inside is
escaped. -/
def textLiteral (dialect : Dialect) (text : String) : String :=
  if dialect.isQuoted text then text
  else
    let body := text.toList.flatMap fun c => if c = dialect.quote then [dialect.escape, c] else [c]
    String.ofList (dialect.quote :: body ++ [dialect.quote])

mutual

/-- A value as it is written in a query. -/
def literal (dialect : Dialect) : Value → String
  | .text pattern => dialect.textLiteral pattern.text
  | .bool value => dialect.boolToken value
  | .number value => value.toText
  | .regex expression => expression
  | .fieldRef field => field
  | .list values => Text.bracketed (Text.joined dialect.listSeparator (dialect.literals values))
  | .expansion values =>
    Text.bracketed (Text.joined dialect.listSeparator (dialect.literals values))

def literals (dialect : Dialect) : List Value → List String
  | [] => []
  | value :: rest => dialect.literal value :: dialect.literals rest

end

/-- Whether a name is empty or would end the literal it is put into. -/
def isBadName (dialect : Dialect) (name : String) : Bool :=
  name.isEmpty || name.toList.contains dialect.quote || name.toList.contains dialect.escape

/-- A field name as it is written in a query. A name that is more than words and points gets the
field quote on both sides. -/
def fieldName (dialect : Dialect) (name : String) : Except Error String :=
  if dialect.isBadName name then .error (.invalidFieldName name)
  else if name.toList.all fun c => Text.isWord c || c = '.' then .ok name
  else .ok (dialect.fieldQuote ++ name ++ dialect.fieldQuote)

end DetectionQuery.Query.Dialect
