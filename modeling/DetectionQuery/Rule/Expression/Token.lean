import DetectionQuery.Text.Digits

/-!
Tokens of condition expressions.

The text of an expression is cut into parentheses and words; a word is a longest run of letters,
digits and the characters `_ * ? - .`. Blanks between tokens are dropped, and any other character
makes the text malformed. Keywords are recognised in any letter case.
-/

namespace DetectionQuery.Rule.Expression

inductive Token where
  | opening
  | closing
  | word (characters : List Char)
deriving DecidableEq, Repr

def isWordChar (c : Char) : Bool :=
  c.isAlphanum || c = '_' || c = '*' || c = '?' || c = '-' || c = '.'

def isBlank (c : Char) : Bool :=
  c = ' ' || c = '\t' || c = '\r' || c = '\n'

/-- The tokens with a character put in front: it joins a word that follows it immediately. -/
def extend (c : Char) (adjacent : Bool) : List Token → List Token
  | .word characters :: rest =>
    if adjacent then .word (c :: characters) :: rest else .word [c] :: .word characters :: rest
  | tokens => .word [c] :: tokens

/-- The tokens of a text, or nothing if it holds a character that is in none. -/
def tokenize : List Char → Option (List Token)
  | [] => some []
  | '(' :: rest => (tokenize rest).map (.opening :: ·)
  | ')' :: rest => (tokenize rest).map (.closing :: ·)
  | c :: rest =>
    if isBlank c then tokenize rest
    else if isWordChar c then
      (tokenize rest).map (extend c (rest.head?.any isWordChar))
    else none

/-- Whether a word is a keyword, in any letter case. -/
def isKeyword (keyword : String) (word : List Char) : Bool :=
  word.map Char.toLower = keyword.toList

end DetectionQuery.Rule.Expression
