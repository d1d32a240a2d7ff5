import DetectionQuery.Text.Digits
import DetectionQuery.Yaml.Cursor
import DetectionQuery.Yaml.Token

/-!
Names and tags in a YAML text: anchors, aliases, tags and directives.

Each reader returns a token and the cursor behind it, or nothing if the text is malformed.
-/

namespace DetectionQuery.Yaml

/-- Reads the name of an anchor or alias, whose indicator is next. -/
def readAnchorName (cursor : Cursor) : Option (String × Cursor) :=
  let name := cursor.next.rest.takeWhile isNameChar
  let behind := cursor.next.advance name.length
  let ended := behind.gapAt 0 ||
    behind.peek.any fun c => c = '?' || c = ':' || c = ',' || c = ']' || c = '\x7d' || c = '%' ||
      c = '@' || c = '\x60'
  if !name.isEmpty && ended then some (String.ofList name, behind) else none

/-! ### Tags -/

/-- Whether a character may stand in a tag; `verbatim` admits those that also structure a text. -/
def isTagChar (verbatim : Bool) (c : Char) : Bool :=
  isNameChar c || c = ';' || c = '/' || c = '?' || c = ':' || c = '@' || c = '&' || c = '=' ||
    c = '+' || c = '$' || c = '.' || c = '%' || c = '!' || c = '~' || c = '*' || c = '\x27' ||
    c = '(' || c = ')' || verbatim && (c = ',' || c = '[' || c = ']')

/-- The octet that a percent sign and two hexadecimal digits stand for. -/
def readOctet : List Char → Option (Nat × List Char)
  | '%' :: high :: low :: rest => do
    let octet ← Text.readDigits 16 [high, low]
    return (octet, rest)
  | _ => none

/-- The octets that continue a character whose leading bits are `code`. -/
def readOctets (code : Nat) : Nat → List Char → Option (Nat × List Char)
  | 0, cs => some (code, cs)
  | count + 1, cs => do
    let (octet, rest) ← readOctet cs
    if octet / 64 = 2 then readOctets (code * 64 + octet % 64) count rest else none

/-- A character that is written by its octets. Their first bits have to fit together, but the code
that they give may be none of a character, or have a shorter encoding. -/
def readEscapedChar (cs : List Char) : Option (Option Char × List Char) := do
  let (octet, rest) ← readOctet cs
  let (least, code, rest) ←
    if octet < 0x80 then some (0, octet, rest)
    else if octet / 32 = 6 then (readOctets (octet % 32) 1 rest).map (0x80, ·)
    else if octet / 16 = 14 then (readOctets (octet % 16) 2 rest).map (0x800, ·)
    else if octet / 8 = 30 then (readOctets (octet % 8) 3 rest).map (0x10000, ·)
    else none
  if h : code.isValidChar then
    return (if least ≤ code then some (Char.ofNatAux code h) else none, rest)
  else return (none, rest)

/-- The characters of a tag, with what follows them. -/
def readTagChars (verbatim : Bool) : Nat → List Char → Option (TagText × List Char)
  | 0, cs => some ([], cs)
  | _, [] => some ([], [])
  | steps + 1, c :: cs =>
    if c = '%' then do
      let (decoded, rest) ← readEscapedChar (c :: cs)
      let (more, rest) ← readTagChars verbatim steps rest
      return (decoded :: more, rest)
    else if isTagChar verbatim c then do
      let (more, rest) ← readTagChars verbatim steps cs
      return (some c :: more, rest)
    else some ([], c :: cs)

def readTagText (verbatim : Bool) (cursor : Cursor) : Option (TagText × Cursor) := do
  let (text, rest) ← readTagChars verbatim cursor.rest.length cursor.rest
  return (text, cursor.advance (cursor.rest.length - rest.length))

/-- The handle at the cursor: an exclamation mark, or a name between two. The flag says whether it
is closed by a second mark. -/
def readHandle (cursor : Cursor) : Option (List Char × Bool × Cursor) :=
  if !cursor.sees '!' then none
  else
    let name := cursor.next.rest.takeWhile isNameChar
    let behind := cursor.next.advance name.length
    if behind.sees '!' then some ('!' :: name ++ ['!'], true, behind.next)
    else some ('!' :: name, false, behind)

/-- Reads a tag. `!<…>` gives it in full, `!name!rest` and `!!rest` use a handle, `!rest` uses the
primary handle, and a lone `!` is a tag of its own. A zero character ends a tag early. -/
def readTag (inFlow : Bool) (cursor : Cursor) : Option (Token × Cursor) := do
  let (token, behind) ←
    if cursor.peekAt 1 == some '<' then do
      let (text, behind) ← readTagText true (cursor.advance 2)
      if text.isEmpty || !behind.sees '>' then none
      else some (Token.tag "" text.untilZero, behind.next)
    else do
      let (handle, closed, behind) ← readHandle cursor
      let (text, behind) ← readTagText false behind
      if closed then
        if text.isEmpty then none
        else some (Token.tag (String.ofList handle) text.untilZero, behind)
      else
        let suffix := TagText.untilZero (TagText.ofList (handle.drop 1) ++ text)
        if suffix.isEmpty then some (Token.tag "" [some '!'], behind)
        else some (Token.tag "!" suffix, behind)
  if behind.gapAt 0 || inFlow && behind.sees ',' then some (token, behind) else none

/-! ### Directives -/

/-- Reads a version number of at most nine digits. -/
def readVersionNumber (cursor : Cursor) : Option (Nat × Cursor) := do
  let digits := cursor.rest.takeWhile Text.isDigit
  if 9 < digits.length then none
  let number ← Text.readDigits 10 digits
  return (number, cursor.advance digits.length)

def readVersion (cursor : Cursor) : Option (Token × Cursor) := do
  let (major, cursor) ← readVersionNumber (cursor.skipWhile isBlank)
  if !cursor.sees '.' then none
  let (minor, cursor) ← readVersionNumber cursor.next
  return (.version major minor, cursor)

def readTagDirective (cursor : Cursor) : Option (Token × Cursor) := do
  let (handle, closed, cursor) ← readHandle (cursor.skipWhile isBlank)
  if !closed && handle.length ≠ 1 then none
  if !cursor.atBlank then none
  let (stem, cursor) ← readTagText true (cursor.skipWhile isBlank)
  if stem.isEmpty || !cursor.gapAt 0 then none
  return (.tagHandle (String.ofList handle) stem.untilZero, cursor)

/-- Reads a directive, whose percent sign is next, with the rest of its line. -/
def readDirective (cursor : Cursor) : Option (Token × Cursor) := do
  let name := cursor.next.rest.takeWhile isNameChar
  let behind := cursor.next.advance name.length
  if !behind.gapAt 0 then none
  let (token, behind) ←
    if name = "YAML".toList then readVersion behind
    else if name = "TAG".toList then readTagDirective behind
    else none
  let behind := behind.skipWhile isBlank
  let behind := if behind.sees '#' then behind.skipWhile fun c => !isBreak c else behind
  if behind.atEnd || behind.atBreak then some (token, behind.skipBreak) else none

end DetectionQuery.Yaml
