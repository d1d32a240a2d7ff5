import DetectionQuery.Rule.ReadError
import DetectionQuery.Yaml.Document
import DetectionQuery.Yaml.Source

/-!
Reading the fields of a record.

Fields are read in the order of the document, so that the first one at fault is reported; a known
field may occur once. A record that is read from a text is at fault without details.
-/

namespace DetectionQuery.Rule

open DetectionQuery.Yaml (Document Node Source Value)

variable {α β : Type} [Source α]

/-- Reads fields in order, each into the record so far. The names in `once` may not occur again. -/
def readFields (step : β → String → α → Except ReadError β) (known once : List String)
    (record : β) : List (Option String × α) → Except ReadError β
  | [] => .ok record
  | (none, _) :: _ => .error .unreadable
  | (some name, place) :: rest =>
    if once.contains name then .error (.repeatedField name)
    else do
      let record ← step record name place
      let once := if known.contains name then name :: once else once
      readFields step known once record rest

/-- Reads a record with the known fields from a place; `step` reads one field. -/
def readRecord (known : List String) (step : β → String → α → Except ReadError β) (record : β)
    (place : α) : Except ReadError β := do
  readFields step known [] record (← demand (Source.fields? place))

def optionalText (place : α) : Except ReadError (Option String) :=
  demand (Source.optional? Source.text? place)

def optionalTexts (place : α) : Except ReadError (Option (List String)) :=
  demand (Source.optional? Source.texts? place)

def valueOf (place : α) : Except ReadError Value :=
  demand (Source.value? place)

/-! ### Texts -/

/-- Reads the part of a document that `select` takes from it, if it is well formed. -/
def readDocument (select : Document → Option Node) (read : Node → Except ReadError β)
    (document : Option Document) : Except ReadError β :=
  match (document.bind select).map read with
  | some (.ok result) => .ok result
  | _ => .error .unreadable

/-- Reads the only document of a text. -/
def readText (select : Document → Option Node) (read : Node → Except ReadError β) (text : String) :
    Except ReadError β :=
  readDocument select read (Yaml.document? text)

def valueOfText (text : String) : Except ReadError Value :=
  readText Document.whole? valueOf text

end DetectionQuery.Rule
