import DetectionQuery.Rule.Record

/-!
Options of a conversion.
-/

namespace DetectionQuery

open DetectionQuery.Rule
open DetectionQuery.Yaml (Document Source)

/-- The options of a conversion. -/
structure Options where
  /-- Where the queries are meant to run; it is no part of them. -/
  index : String
  /-- How correlations are converted. -/
  correlationMethod : String
deriving DecidableEq, Repr

namespace Options

/-- The only known way to convert correlations. -/
def aggregate : String := "aggregate"

def standard : Options := ⟨"*", aggregate⟩

def check (options : Options) : Except Error Unit :=
  if options.correlationMethod = aggregate then .ok ()
  else .error (.unknownMethod options.correlationMethod)

variable {α : Type} [Source α]

/-- Reads one option; others are passed over. -/
def readField (options : Options) (name : String) (place : α) : Except ReadError Options :=
  match name with
  | "index" => do
    return { options with index := ← demand (Source.text? place) }
  | "correlation-method" => do
    return { options with correlationMethod := ← demand (Source.text? place) }
  | _ => .ok options

def names : List String := ["index", "correlation-method"]

/-- Reads options; those that are not given are the standard ones. -/
def read (place : α) : Except ReadError Options :=
  readRecord names readField standard place

def ofText (text : String) : Except ReadError Options :=
  readText (Document.record? names) read text

end Options

end DetectionQuery
