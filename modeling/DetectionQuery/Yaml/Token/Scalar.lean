import DetectionQuery.Text.Digits
import DetectionQuery.Yaml.Cursor

/-!
The texts of scalars.

A scalar may run over several lines. Between the lines of a plain or quoted scalar, and of a folded
block, one line break is read as a space and further ones are kept; a literal block keeps all.
Each reader returns the text of the scalar and the cursor behind it, or nothing if the text is
malformed.
-/

namespace DetectionQuery.Yaml

/-- The blanks and line breaks between two parts of a scalar. -/
structure Gap where
  /-- The blanks before the first line break. -/
  blanks : List Char
  /-- The first line break. -/
  first : List Char
  /-- The line breaks after the first. -/
  further : List Char
  broken : Bool

namespace Gap

def none : Gap := ⟨[], [], [], false⟩

/-- A line break that is taken back: blanks at the start of the next line do not count. -/
def joined : Gap := ⟨[], [], [], true⟩

/-- What a gap stands for. -/
def folded (gap : Gap) : List Char :=
  if gap.broken then
    if gap.first = ['\n'] then if gap.further.isEmpty then [' '] else gap.further
    else gap.first ++ gap.further
  else gap.blanks

/-- Reads blanks and line breaks. A tab before column `indent` of a later line is malformed. -/
def read (indent : Nat) : Nat → Gap → Cursor → Option (Gap × Cursor)
  | 0, gap, cursor => some (gap, cursor)
  | steps + 1, gap, cursor =>
    match cursor.peek with
    | .none => some (gap, cursor)
    | some c =>
      if isBlank c then
        if gap.broken then
          if c = '\t' && cursor.column < indent then .none
          else read indent steps gap cursor.next
        else read indent steps { gap with blanks := gap.blanks ++ [c] } cursor.next
      else if isBreak c then
        let text := cursor.breakText
        let gap :=
          if gap.broken then { gap with further := gap.further ++ text }
          else { gap with blanks := [], first := text, broken := true }
        read indent steps gap cursor.skipBreak
      else some (gap, cursor)

end Gap

/-! ### Quoted scalars -/

/-- The character that a letter behind a backslash stands for. -/
def shortEscape? : Char → Option Char
  | '0' => some '\x00'
  | 'a' => some '\x07'
  | 'b' => some '\x08'
  | 't' | '\t' => some '\t'
  | 'n' => some '\n'
  | 'v' => some '\x0b'
  | 'f' => some '\x0c'
  | 'r' => some '\r'
  | 'e' => some '\x1b'
  | ' ' => some ' '
  | '"' => some '"'
  | '/' => some '/'
  | '\\' => some '\\'
  | 'N' => some '\u0085'
  | '_' => some '\u00a0'
  | 'L' => some '\u2028'
  | 'P' => some '\u2029'
  | _ => none

/-- The number of hexadecimal digits behind a letter behind a backslash. -/
def codeLength? : Char → Option Nat
  | 'x' => some 2
  | 'u' => some 4
  | 'U' => some 8
  | _ => none

/-- The character behind a backslash, with the cursor behind it. -/
def readEscape (cursor : Cursor) : Option (Char × Cursor) := do
  let letter ← cursor.peek
  match shortEscape? letter with
  | some c => some (c, cursor.next)
  | none =>
    let length ← codeLength? letter
    let digits := (cursor.rest.drop 1).take length
    let code ← if digits.length = length then Text.readDigits 16 digits else none
    if h : code.isValidChar then some (Char.ofNatAux code h, cursor.advance (1 + length)) else none

/-- A run of characters without blanks inside quotes, appended to `found` in reverse. -/
def readQuotedRun (single : Bool) :
    Nat → List Char → Cursor → Option (List Char × Gap × Cursor)
  | 0, found, cursor => some (found, .none, cursor)
  | steps + 1, found, cursor =>
    match cursor.peek with
    | none => some (found, .none, cursor)
    | some c =>
      if isBlank c || isBreak c then some (found, .none, cursor)
      else if single && c = '\x27' then
        if cursor.peekAt 1 == some '\x27' then
          readQuotedRun single steps ('\x27' :: found) (cursor.advance 2)
        else some (found, .none, cursor)
      else if !single && c = '"' then some (found, .none, cursor)
      else if !single && c = '\\' then
        let behind := cursor.next
        if behind.atBreak then some (found, .joined, behind.skipBreak)
        else
          match readEscape behind with
          | some (d, cursor) => readQuotedRun single steps (d :: found) cursor
          | none => none
      else readQuotedRun single steps (c :: found) cursor.next

/-- The parts of a quoted scalar up to its closing quote. -/
def readQuotedParts (single : Bool) : Nat → List Char → Cursor → Option (List Char × Cursor)
  | 0, _, _ => none
  | steps + 1, found, cursor => do
    if cursor.atAnyMarker || cursor.atEnd then none
    let (found, gap, cursor) ← readQuotedRun single (cursor.rest.length + 1) found cursor
    if cursor.sees (if single then '\x27' else '"') then some (found, cursor.next)
    else
      let (gap, cursor) ← gap.read 0 (cursor.rest.length + 1) cursor
      readQuotedParts single steps (gap.folded.reverse ++ found) cursor

/-- Reads a quoted scalar, whose opening quote is next. -/
def readQuoted (single : Bool) (cursor : Cursor) : Option (List Char × Cursor) := do
  let (found, behind) ← readQuotedParts single (cursor.rest.length + 1) [] cursor.next
  return (found.reverse, behind)

/-! ### Plain scalars -/

/-- Whether a character ends a plain scalar inside brackets. -/
def isFlowIndicator (c : Char) : Bool :=
  c = ',' || c = '[' || c = ']' || c = '\x7b' || c = '\x7d'

/-- A run of characters without blanks in a plain scalar, appended to `found` in reverse. -/
def readPlainRun (inFlow : Bool) : Nat → List Char → Cursor → Option (List Char × Cursor)
  | 0, found, cursor => some (found, cursor)
  | steps + 1, found, cursor =>
    match cursor.peek with
    | none => some (found, cursor)
    | some c =>
      if isBlank c || isBreak c then some (found, cursor)
      else if inFlow && c = ':' &&
          (cursor.peekAt 1).any (fun d => isFlowIndicator d || d = '?') then none
      else if c = ':' && cursor.gapAt 1 || inFlow && isFlowIndicator c then some (found, cursor)
      else readPlainRun inFlow steps (c :: found) cursor.next

/-- A plain scalar as far as it is read. -/
structure PlainText where
  /-- The text in reverse. -/
  found : List Char
  /-- The gap behind the text, which counts only if more text follows. -/
  gap : Gap
  cursor : Cursor

/-- The parts of a plain scalar that are indented to column `indent` or lie inside brackets. -/
def readPlainParts (inFlow : Bool) (indent : Nat) : Nat → PlainText → Option PlainText
  | 0, plain => some plain
  | steps + 1, plain => do
    let cursor := plain.cursor
    if cursor.atAnyMarker || cursor.sees '#' then some plain
    else
      let (run, behind) ← readPlainRun inFlow (cursor.rest.length + 1) [] cursor
      let plain :=
        if run.isEmpty then plain
        else ⟨run ++ plain.gap.folded.reverse ++ plain.found, .none, behind⟩
      if !(behind.atBlank || behind.atBreak) then some plain
      else
        let (gap, cursor) ← plain.gap.read indent (behind.rest.length + 1) behind
        let plain := { plain with gap, cursor }
        if !inFlow && cursor.column < indent then some plain
        else readPlainParts inFlow indent steps plain

/-- Reads a plain scalar; the flag says whether a line break follows its text. -/
def readPlain (inFlow : Bool) (indent : Nat) (cursor : Cursor) :
    Option (List Char × Bool × Cursor) := do
  let plain ← readPlainParts inFlow indent (cursor.rest.length + 1) ⟨[], .none, cursor⟩
  return (plain.found.reverse, plain.gap.broken, plain.cursor)

/-! ### Block scalars -/

/-- What becomes of the line breaks at the end of a block. -/
inductive Chomping where
  | strip
  | clip
  | keep
deriving DecidableEq

/-- The indicators behind the one that opens a block: chomping and indentation, in either order. -/
def readBlockHeader (cursor : Cursor) : Option (Chomping × Nat × Cursor) :=
  let chomping? (cursor : Cursor) : Option Chomping :=
    if cursor.sees '+' then some .keep else if cursor.sees '-' then some .strip else none
  let increment? (cursor : Cursor) : Option Nat :=
    (cursor.peek.filter Text.isDigit).bind Text.digitValue
  match chomping? cursor with
  | some chomping =>
    let cursor := cursor.next
    match increment? cursor with
    | some 0 => none
    | some increment => some (chomping, increment, cursor.next)
    | none => some (chomping, 0, cursor)
  | none =>
    match increment? cursor with
    | some 0 => none
    | some increment =>
      let cursor := cursor.next
      match chomping? cursor with
      | some chomping => some (chomping, increment, cursor.next)
      | none => some (.clip, increment, cursor)
    | none => some (.clip, 0, cursor)

/-- Empty lines and the indentation of the next line. `indent` is zero while it is not known;
`widest` is the widest indentation met. -/
def readBlockBreaks (indent : Nat) :
    Nat → Nat → List Char → Cursor → Option (Nat × List Char × Cursor)
  | 0, widest, breaks, cursor => some (widest, breaks, cursor)
  | steps + 1, widest, breaks, cursor =>
    let spaces := (cursor.rest.takeWhile (· = ' ')).length
    let cursor :=
      cursor.advance (if indent = 0 then spaces else min spaces (indent - cursor.column))
    let widest := max widest cursor.column
    if (indent = 0 || cursor.column < indent) && cursor.sees '\t' then none
    else if cursor.atBreak then
      readBlockBreaks indent steps widest (breaks ++ cursor.breakText) cursor.skipBreak
    else some (widest, breaks, cursor)

/-- The lines of a block that are indented to column `indent`. `found` is in reverse, `leading` is
the break behind the last line, `breaks` are those of the empty lines after it, and `spaced` says
that the last line started with a blank. -/
def readBlockLines (literal : Bool) (indent : Nat) :
    Nat → List Char → List Char → List Char → Bool → Cursor →
      Option (List Char × List Char × List Char × Cursor)
  | 0, found, leading, breaks, _, cursor => some (found, leading, breaks, cursor)
  | steps + 1, found, leading, breaks, spaced, cursor =>
    if cursor.column = indent && !cursor.atEnd then do
      let blank := cursor.atBlank
      let between :=
        if !literal && leading = ['\n'] && !spaced && !blank then
          if breaks.isEmpty then [' '] else breaks
        else leading ++ breaks
      let line := cursor.rest.takeWhile fun c => !isBreak c
      let behind := cursor.advance line.length
      let found := line.reverse ++ between.reverse ++ found
      let next := behind.skipBreak
      let (_, breaks, cursor) ← readBlockBreaks indent (next.rest.length + 1) 0 [] next
      readBlockLines literal indent steps found behind.breakText breaks blank cursor
    else some (found, leading, breaks, cursor)

/-- Reads a block scalar, whose indicator is next, inside a collection indented to `parent`. -/
def readBlock (literal : Bool) (parent : Int) (cursor : Cursor) : Option (List Char × Cursor) := do
  let (chomping, increment, cursor) ← readBlockHeader cursor.next
  let cursor := cursor.skipWhile isBlank
  let cursor := if cursor.sees '#' then cursor.skipWhile fun c => !isBreak c else cursor
  if !(cursor.atEnd || cursor.atBreak) then none
  let cursor := cursor.skipBreak
  let given := if increment = 0 then 0 else (max parent 0).toNat + increment
  let (widest, breaks, cursor) ← readBlockBreaks given (cursor.rest.length + 1) 0 [] cursor
  let indent := if given = 0 then max (max widest (parent + 1).toNat) 1 else given
  let (found, leading, breaks, cursor) ←
    readBlockLines literal indent (cursor.rest.length + 1) [] [] breaks false cursor
  let tail := match chomping with
    | .strip => []
    | .clip => leading
    | .keep => leading ++ breaks
  return (found.reverse ++ tail, cursor)

end DetectionQuery.Yaml
