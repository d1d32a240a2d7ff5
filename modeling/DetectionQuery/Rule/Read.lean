import DetectionQuery.Rule.Basic
import DetectionQuery.Rule.Correlation.Read
import DetectionQuery.Rule.Detection

/-!
Reading rules.

A document is first read into its fields, whether it is given as a value or as text, and the fields
are then made into a rule. A fault in a text, or in a field that is read from it, is reported
without details; what is wrong with the fields of a value, with the fields as a whole or with the
detection is reported in full.
-/

namespace DetectionQuery.Rule

open DetectionQuery.Yaml (Document Source Value)

/-- The fields of a rule as far as they are read. -/
structure Fields extends Metadata where
  title : Option String
  logSource : Option LogSource
  detection : Option Value
  correlation : Option Correlation

namespace Fields

def unread : Fields where
  title := none
  id := none
  name := none
  description := none
  references := none
  author := none
  date := none
  modified := none
  status := none
  license := none
  tags := none
  falsePositives := none
  level := none
  logSource := none
  detection := none
  correlation := none

def names : List String :=
  ["title", "id", "name", "description", "references", "author", "date", "modified", "status",
    "license", "tags", "falsepositives", "level", "logsource", "detection", "correlation"]

variable {α β : Type} [Source α]

/-- Reads an optional part that has errors of its own. -/
def optionalPart (read : α → Except ReadError β) (place : α) : Except ReadError (Option β) := do
  if ← demand (Source.absent? place) then return none
  else return some (← read place)

def readStatus (place : α) : Except ReadError Status := do
  let (name, alone) ← demand (Source.choice? place)
  match Status.parse? name with
  | some status => if alone then .ok status else .error .unreadable
  | none => .error (.unknownChoice name Status.names)

/-- Reads one field of a rule; others are passed over. -/
def readField (fields : Fields) (name : String) (place : α) : Except ReadError Fields :=
  match name with
  | "title" => do
    return { fields with title := some (← demand (Source.text? place)) }
  | "id" => do
    return { fields with id := ← optionalText place }
  | "name" => do
    return { fields with name := ← optionalText place }
  | "description" => do
    return { fields with description := ← optionalText place }
  | "references" => do
    return { fields with references := ← optionalTexts place }
  | "author" => do
    return { fields with author := ← optionalText place }
  | "date" => do
    return { fields with date := ← optionalText place }
  | "modified" => do
    return { fields with modified := ← optionalText place }
  | "status" => do
    return { fields with status := ← optionalPart readStatus place }
  | "license" => do
    return { fields with license := ← optionalText place }
  | "tags" => do
    return { fields with tags := ← optionalTexts place }
  | "falsepositives" => do
    return { fields with falsePositives := ← optionalTexts place }
  | "level" => do
    return { fields with level := ← optionalText place }
  | "logsource" => do
    return { fields with logSource := ← optionalPart LogSource.read place }
  | "detection" => do
    return { fields with detection := ← demand (Source.optional? Source.value? place) }
  | "correlation" => do
    return { fields with correlation := ← optionalPart Correlation.read place }
  | _ => .ok fields

/-- Reads the fields of a rule, of which the title has to be given. -/
def read (place : α) : Except ReadError (String × Fields) := do
  let fields ← readRecord names readField unread place
  let title ← given "title" fields.title
  return (title, fields)

/-- What a rule asks for: either a detection, which needs a log source, or a correlation. -/
def body (fields : Fields) (title : String) : Except ReadError Body :=
  match fields.detection, fields.correlation with
  | some detection, none => do
    let source ← given "logsource" fields.logSource
    match Detection.compile detection with
    | .ok conditions => return .detection source conditions
    | .error cause => .error (.invalidDetection cause)
  | none, some correlation => return .correlation correlation
  | some _, some _ => .error (.twoBodies title)
  | none, none => .error (.noBody title)

def toRule (fields : Fields) (title : String) : Except ReadError Rule := do
  return { fields.toMetadata with title, body := ← fields.body title }

end Fields

def ofValue (value : Value) : Except ReadError Rule := do
  let (title, fields) ← Fields.read value
  fields.toRule title

/-- The rule of a document in a text, if it is well formed. -/
def ofDocument (document : Option Document) : Except ReadError Rule := do
  let (title, fields) ← readDocument (Document.record? Fields.names) Fields.read document
  fields.toRule title

def ofText (text : String) : Except ReadError Rule :=
  ofDocument (Yaml.document? text)

end DetectionQuery.Rule
