/-!
A place in a YAML text.

The cursor holds what is still to be read and counts characters, lines and columns from zero. A line
ends at a carriage return, a line feed, both together, or one of the three Unicode line separators.
-/

namespace DetectionQuery.Yaml

def isBreak (c : Char) : Bool :=
  c = '\n' || c = '\r' || c = '\u0085' || c = '\u2028' || c = '\u2029'

def isBlank (c : Char) : Bool :=
  c = ' ' || c = '\t'

/-- Whether a character may stand in a name: of an anchor, a directive or a tag handle. -/
def isNameChar (c : Char) : Bool :=
  c.isAlphanum || c = '_' || c = '-'

/-- A place in a text. -/
structure Cursor where
  rest : List Char
  index : Nat
  line : Nat
  column : Nat

namespace Cursor

def start (text : List Char) : Cursor :=
  ⟨text, 0, 0, 0⟩

def peek (cursor : Cursor) : Option Char :=
  cursor.rest.head?

def peekAt (cursor : Cursor) (distance : Nat) : Option Char :=
  cursor.rest[distance]?

def sees (cursor : Cursor) (c : Char) : Bool :=
  cursor.peek == some c

def atEnd (cursor : Cursor) : Bool :=
  cursor.rest.isEmpty

def atBreak (cursor : Cursor) : Bool :=
  cursor.peek.any isBreak

def atBlank (cursor : Cursor) : Bool :=
  cursor.peek.any isBlank

/-- Whether a blank, a line break or the end of the text is `distance` places ahead. -/
def gapAt (cursor : Cursor) (distance : Nat) : Bool :=
  (cursor.peekAt distance).all fun c => isBlank c || isBreak c

/-- Past `count` characters of the current line. -/
def advance (cursor : Cursor) (count : Nat) : Cursor :=
  ⟨cursor.rest.drop count, cursor.index + count, cursor.line, cursor.column + count⟩

def next (cursor : Cursor) : Cursor :=
  cursor.advance 1

/-- Past all characters of the current line that satisfy `accepts`. -/
def skipWhile (cursor : Cursor) (accepts : Char → Bool) : Cursor :=
  cursor.advance (cursor.rest.takeWhile accepts).length

/-- Past the end of the current line. -/
def skipBreak (cursor : Cursor) : Cursor :=
  match cursor.rest with
  | '\r' :: '\n' :: rest => ⟨rest, cursor.index + 2, cursor.line + 1, 0⟩
  | c :: rest => if isBreak c then ⟨rest, cursor.index + 1, cursor.line + 1, 0⟩ else cursor
  | [] => cursor

/-- What the end of the current line stands for in a scalar: a line feed, except that the line and
paragraph separators stand for themselves. -/
def breakText (cursor : Cursor) : List Char :=
  match cursor.rest with
  | '\u2028' :: _ => ['\u2028']
  | '\u2029' :: _ => ['\u2029']
  | c :: _ => if isBreak c then ['\n'] else []
  | [] => []

/-- Whether a marker line for the start or the end of a document begins here. -/
def atMarker (cursor : Cursor) (c : Char) : Bool :=
  cursor.column = 0 && cursor.sees c && cursor.peekAt 1 == some c && cursor.peekAt 2 == some c &&
    cursor.gapAt 3

def atAnyMarker (cursor : Cursor) : Bool :=
  cursor.atMarker '-' || cursor.atMarker '.'

end Cursor

end DetectionQuery.Yaml
