/-!
Tags of nodes.

A tag that starts with an exclamation mark is one of the document's own; any other names a type of
a standard or of someone else. The characters of a tag may be written by their octets, and octets
that follow the pattern of a character need not encode one. An own tag with such octets in it is
illegible: nobody can name it, and its node is taken as if it had none.
-/

namespace DetectionQuery.Yaml

/-- The characters of a tag; nothing stands for octets that encode none. -/
abbrev TagText := List (Option Char)

namespace TagText

def ofList (text : List Char) : TagText :=
  text.map some

/-- The text, if all of it is legible. -/
def text? (text : TagText) : Option String :=
  (text.mapM id).map String.ofList

/-- A tag up to the first zero character, which ends it. -/
def untilZero (text : TagText) : TagText :=
  text.takeWhile (· ≠ some '\x00')

end TagText

/-- The tag of a node. -/
inductive Tag where
  /-- One of the document's own, by its name without the exclamation mark; a lone mark is its own
  name. -/
  | own (name : String)
  /-- One of the document's own that is no text. -/
  | illegible
  /-- One that is not the document's own; nothing stands for one that is no text. -/
  | other (text : Option String)
deriving DecidableEq, Repr

namespace Tag

/-- A name without one leading exclamation mark, unless the mark is all of it. -/
def bare (name : String) : String :=
  match name.toList with
  | '!' :: c :: rest => String.ofList (c :: rest)
  | _ => name

def ofText (text : TagText) : Tag :=
  if text.head? = some (some '!') then
    match text.text? with
    | some name => .own (bare name)
    | none => .illegible
  else .other text.text?

/-- The start of the tags of the standard types. -/
def standardStem : String := "tag:yaml.org,2002:"

def standard (type : String) : Tag :=
  .other (some (standardStem ++ type))

end Tag

end DetectionQuery.Yaml
