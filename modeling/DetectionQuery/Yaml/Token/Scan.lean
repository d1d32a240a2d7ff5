import DetectionQuery.Yaml.Token.Scalar
import DetectionQuery.Yaml.Token.Tag

/-!
The tokens of a YAML text.

In block style, structure is shown by columns: a collection opens at a column to the right of its
parent's and ends with the first token to the left of its own. A key is recognised only at the colon
behind it, so the places where one may start are remembered, one for each open bracket, and the
tokens that announce a key are put in front of it when its colon is met. Such a key stays on one
line and is at most 1024 characters long.
-/

namespace DetectionQuery.Yaml

/-- A place where a key may have started. -/
structure KeyStart where
  /-- Whether only a key can stand here. -/
  required : Bool
  /-- The number of tokens before the key. -/
  position : Nat
  index : Nat
  line : Nat
  column : Nat

/-- A text that is cut into tokens as far as the cursor. -/
structure Scanner where
  cursor : Cursor
  tokens : Array Token
  /-- The column of the innermost open block collection, or -1 outside all. -/
  indent : Int
  /-- The columns of the block collections around it. -/
  indents : List Int
  /-- Where a key may have started: inside the innermost brackets, inside those around them, and so
  on to the block outside all brackets. -/
  keys : List (Option KeyStart)
  /-- Whether a key may start here. -/
  keyAllowed : Bool

namespace Scanner

def start (text : List Char) : Scanner :=
  ⟨Cursor.start text, #[], -1, [], [none], true⟩

def inFlow (scanner : Scanner) : Bool :=
  1 < scanner.keys.length

def push (scanner : Scanner) (token : Token) : Scanner :=
  { scanner with tokens := scanner.tokens.push token }

/-- Adds a token that was read up to `cursor`. -/
def pushTo (scanner : Scanner) (token : Token) (cursor : Cursor) : Scanner :=
  { scanner with tokens := scanner.tokens.push token, cursor }

/-- Adds a token of `count` characters. -/
def pushOver (scanner : Scanner) (token : Token) (count : Nat) : Scanner :=
  scanner.pushTo token (scanner.cursor.advance count)

def allowKey (scanner : Scanner) (allowed : Bool) : Scanner :=
  { scanner with keyAllowed := allowed }

/-! ### Keys -/

/-- Whether a key that started at a place can no longer be closed by a colon. -/
def isStale (scanner : Scanner) (key : KeyStart) : Bool :=
  key.line < scanner.cursor.line || key.index + 1024 < scanner.cursor.index

/-- Forgets the places at which no key can have started any more. A required key that never came
makes the text malformed. -/
def dropStale (scanner : Scanner) : Option Scanner := do
  let keys ← scanner.keys.mapM fun key? =>
    match key? with
    | some key =>
      if !scanner.isStale key then some key?
      else if key.required then none
      else some none
    | none => some none
  return { scanner with keys }

/-- Forgets the place where a key may have started inside the innermost brackets. -/
def dropKey (scanner : Scanner) : Option Scanner :=
  match scanner.keys with
  | some key :: rest => if key.required then none else some { scanner with keys := none :: rest }
  | _ => some scanner

/-- Remembers that a key may start here, if one may. -/
def markKey (scanner : Scanner) : Option Scanner :=
  if scanner.keyAllowed then do
    let scanner ← scanner.dropKey
    let cursor := scanner.cursor
    let key : KeyStart :=
      { required := !scanner.inFlow && scanner.indent = cursor.column
        position := scanner.tokens.size
        index := cursor.index
        line := cursor.line
        column := cursor.column }
    return { scanner with keys := some key :: scanner.keys.drop 1 }
  else some scanner

/-! ### Block collections -/

/-- Opens a block collection at a column, if it lies to the right of the innermost one; its token is
put behind the first `position` tokens. -/
def openBlock (scanner : Scanner) (column : Nat) (token : Token) (position : Nat) : Scanner :=
  if !scanner.inFlow && scanner.indent < column then
    { scanner with
      indent := column
      indents := scanner.indent :: scanner.indents
      tokens := scanner.tokens.insertIdxIfInBounds position token }
  else scanner

/-- Closes the block collections in a stack that lie to the right of a column. -/
def closeBlocksIn (column : Int) (indent : Int) (tokens : Array Token) :
    List Int → Int × List Int × Array Token
  | [] => (indent, [], tokens)
  | outer :: indents =>
    if column < indent then closeBlocksIn column outer (tokens.push .blockEnd) indents
    else (indent, outer :: indents, tokens)

def closeBlocks (scanner : Scanner) (column : Int) : Scanner :=
  if scanner.inFlow then scanner
  else
    let (indent, indents, tokens) :=
      closeBlocksIn column scanner.indent scanner.tokens scanner.indents
    { scanner with indent, indents, tokens }

/-! ### Tokens -/

/-- Skips blanks, comments and line breaks, and a byte-order mark at the start of a line, which
takes up a column. A tab does not count as a blank where a key may start. -/
def skipToToken : Nat → Scanner → Scanner
  | 0, scanner => scanner
  | steps + 1, scanner =>
    let cursor := scanner.cursor
    let cursor := if cursor.column = 0 && cursor.sees '\ufeff' then cursor.next else cursor
    let cursor := cursor.skipWhile fun c =>
      c = ' ' || c = '\t' && (scanner.inFlow || !scanner.keyAllowed)
    let cursor := if cursor.sees '#' then cursor.skipWhile fun c => !isBreak c else cursor
    if cursor.atBreak then
      skipToToken steps
        { scanner with
          cursor := cursor.skipBreak
          keyAllowed := scanner.keyAllowed || !scanner.inFlow }
    else { scanner with cursor }

/-- Ends all block collections, at the end of the text or before a marker or directive. -/
def endBlocks (scanner : Scanner) : Option Scanner := do
  let scanner ← (scanner.closeBlocks (-1)).dropKey
  return scanner.allowKey false

def fetchOpening (scanner : Scanner) (token : Token) : Option Scanner := do
  let scanner ← scanner.markKey
  return { scanner with keys := none :: scanner.keys, keyAllowed := true }.pushOver token 1

def fetchClosing (scanner : Scanner) (token : Token) : Option Scanner := do
  let scanner ← scanner.dropKey
  let keys := if scanner.inFlow then scanner.keys.drop 1 else scanner.keys
  return { scanner with keys, keyAllowed := false }.pushOver token 1

def fetchComma (scanner : Scanner) : Option Scanner := do
  let scanner ← scanner.dropKey
  return (scanner.allowKey true).pushOver .flowEntry 1

/-- Opens a block collection at the cursor, if a key or entry may start here. -/
def openBlockHere (scanner : Scanner) (token : Token) : Option Scanner :=
  if scanner.inFlow then some scanner
  else if scanner.keyAllowed then
    some (scanner.openBlock scanner.cursor.column token scanner.tokens.size)
  else none

def fetchDash (scanner : Scanner) : Option Scanner := do
  let scanner ← (← scanner.openBlockHere .blockSequenceStart).dropKey
  return (scanner.allowKey true).pushOver .blockEntry 1

def fetchQuestion (scanner : Scanner) : Option Scanner := do
  let scanner ← (← scanner.openBlockHere .blockMappingStart).dropKey
  return (scanner.allowKey !scanner.inFlow).pushOver .key 1

def fetchColon (scanner : Scanner) : Option Scanner :=
  match scanner.keys with
  | some key :: rest =>
    -- Only the colon tells that there was a key, so its token goes in front of what was read since.
    let tokens := scanner.tokens.insertIdxIfInBounds key.position .key
    let scanner := { scanner with keys := none :: rest, tokens, keyAllowed := false }
    some ((scanner.openBlock key.column .blockMappingStart key.position).pushOver .value 1)
  | _ => do
    let scanner ← scanner.openBlockHere .blockMappingStart
    return (scanner.allowKey !scanner.inFlow).pushOver .value 1

/-- Reads an anchor, an alias, a tag or a flow scalar, any of which may start a key. -/
def fetchAtom (scanner : Scanner) (read : Cursor → Option (Token × Cursor)) : Option Scanner := do
  let scanner ← scanner.markKey
  let (token, cursor) ← read scanner.cursor
  return (scanner.allowKey false).pushTo token cursor

/-- Reads a plain scalar. A key may start behind it if a line ended. -/
def fetchPlain (scanner : Scanner) : Option Scanner := do
  let scanner ← scanner.markKey
  let (text, broken, cursor) ←
    readPlain scanner.inFlow (scanner.indent + 1).toNat scanner.cursor
  return (scanner.allowKey broken).pushTo (.scalar .plain (String.ofList text)) cursor

def fetchBlock (scanner : Scanner) (style : Style) : Option Scanner := do
  let scanner ← scanner.dropKey
  let (text, cursor) ← readBlock (style = .literal) scanner.indent scanner.cursor
  return (scanner.allowKey true).pushTo (.scalar style (String.ofList text)) cursor

def quotedToken (style : Style) (cursor : Cursor) : Option (Token × Cursor) := do
  let (text, cursor) ← readQuoted (style = .singleQuoted) cursor
  return (.scalar style (String.ofList text), cursor)

/-- Whether a plain scalar may start at the cursor with a character. -/
def startsPlain (scanner : Scanner) (c : Char) : Bool :=
  let cursor := scanner.cursor
  if c = '-' then !(cursor.peekAt 1).any isBlank
  else if c = '?' || c = ':' then !scanner.inFlow && !cursor.gapAt 1
  else !(isBlank c || isBreak c || isFlowIndicator c || c = '#' || c = '&' || c = '*' || c = '!' ||
    c = '|' || c = '>' || c = '\x27' || c = '"' || c = '%' || c = '@' || c = '\x60')

/-- Reads the next token, which starts with a character. -/
def fetchFrom (scanner : Scanner) (c : Char) : Option Scanner :=
  let cursor := scanner.cursor
  if cursor.column = 0 && c = '%' then do
    let scanner ← scanner.endBlocks
    let (token, cursor) ← readDirective scanner.cursor
    return scanner.pushTo token cursor
  else if cursor.atMarker '-' then do
    return (← scanner.endBlocks).pushOver .documentStart 3
  else if cursor.atMarker '.' then do
    return (← scanner.endBlocks).pushOver .documentEnd 3
  else if c = '[' then scanner.fetchOpening .flowSequenceStart
  else if c = '\x7b' then scanner.fetchOpening .flowMappingStart
  else if c = ']' then scanner.fetchClosing .flowSequenceEnd
  else if c = '\x7d' then scanner.fetchClosing .flowMappingEnd
  else if c = ',' then scanner.fetchComma
  else if c = '-' && cursor.gapAt 1 then scanner.fetchDash
  else if c = '?' && (scanner.inFlow || cursor.gapAt 1) then scanner.fetchQuestion
  else if c = ':' && (scanner.inFlow || cursor.gapAt 1) then scanner.fetchColon
  else if c = '*' then
    scanner.fetchAtom fun cursor => (readAnchorName cursor).map fun (name, c) => (.alias name, c)
  else if c = '&' then
    scanner.fetchAtom fun cursor => (readAnchorName cursor).map fun (name, c) => (.anchor name, c)
  else if c = '!' then scanner.fetchAtom (readTag scanner.inFlow)
  else if c = '|' && !scanner.inFlow then scanner.fetchBlock .literal
  else if c = '>' && !scanner.inFlow then scanner.fetchBlock .folded
  else if c = '\x27' then scanner.fetchAtom (quotedToken .singleQuoted)
  else if c = '"' then scanner.fetchAtom (quotedToken .doubleQuoted)
  else if scanner.startsPlain c then scanner.fetchPlain
  else none

/-- Reads the next token; the flag says that it is the last one. -/
def fetch (scanner : Scanner) : Option (Bool × Scanner) := do
  let scanner := scanner.skipToToken (scanner.cursor.rest.length + 1)
  let scanner ← scanner.dropStale
  let scanner := scanner.closeBlocks scanner.cursor.column
  match scanner.cursor.peek with
  | none => return (true, (← scanner.endBlocks).push .streamEnd)
  | some c => return (false, ← scanner.fetchFrom c)

/-- The tokens that nothing can be put in front of any more: those before the first place where a
key may have started. -/
def settled (scanner : Scanner) : Array Token :=
  let isOpen (key : KeyStart) : Bool := key.required || !scanner.isStale key
  let positions := (scanner.keys.filterMap (Option.filter isOpen)).map KeyStart.position
  scanner.tokens.take (positions.foldl min scanner.tokens.size)

/-- Reads tokens to the end of the text. If it is malformed, only the tokens that are settled by
then are of use. -/
def run : Nat → Scanner → Array Token
  | 0, scanner => scanner.settled
  | steps + 1, scanner =>
    match scanner.fetch with
    | some (false, scanner) => run steps scanner
    | some (true, scanner) => scanner.tokens
    | none => scanner.settled

end Scanner

/-- Whether a character may stand in a text at all. -/
def isAdmissible (c : Char) : Bool :=
  let code := c.toNat
  c = '\t' || c = '\n' || c = '\r' || 0x20 ≤ code && code ≤ 0x7e || code = 0x85 ||
    0xa0 ≤ code && code ≤ 0xfffd || 0x10000 ≤ code

/-- The tokens of a text. They end with the token of the stream's end if the text is well formed,
and before the first malformed place otherwise. -/
def tokens (text : String) : List Token :=
  let characters := text.toList
  if characters.all isAdmissible then
    ((Scanner.start characters).run (characters.length + 2)).toList
  else []

end DetectionQuery.Yaml
