import DetectionQuery.Error

/-!
Why a document is no rule.
-/

namespace DetectionQuery.Rule

/-- Why a document cannot be read. -/
inductive ReadError where
  /-- The text is malformed, or a place holds something else than what is asked for. -/
  | unreadable
  | missingField (name : String)
  | repeatedField (name : String)
  | unknownChoice (given : String) (known : List String)
  | invalidTimespan (text : String)
  /-- The rule has both a detection and a correlation. -/
  | twoBodies (title : String)
  /-- The rule has neither a detection nor a correlation. -/
  | noBody (title : String)
  | invalidDetection (cause : Error)
deriving Repr

namespace ReadError

def ticked (name : String) : String :=
  "\x60" ++ name ++ "\x60"

/-- What a message says after its heading, if there is one. -/
def detail? : ReadError → Option String
  | .unreadable => none
  | .missingField name => some ("missing field " ++ ticked name)
  | .repeatedField name => some ("duplicate field " ++ ticked name)
  | .unknownChoice given known =>
    some ("unknown variant " ++ ticked given ++ ", expected one of " ++
      Text.joined ", " (known.map ticked))
  | .invalidTimespan text => some (Error.invalidTimespan text).message
  | .twoBodies title =>
    some ("rule " ++ Text.quoted title ++ " has both a detection and a correlation")
  | .noBody title =>
    some ("rule " ++ Text.quoted title ++ " has neither a detection nor a correlation")
  | .invalidDetection cause => some cause.message

def message? (error : ReadError) : Option String :=
  error.detail?.map ("YAML parsing error: " ++ ·)

end ReadError

/-- The answer of a place in a document, which has to hold what is asked for. -/
def demand {α : Type} : Option α → Except ReadError α
  | some value => .ok value
  | none => .error .unreadable

/-- The value of a field that has to be given. -/
def given {α : Type} (name : String) : Option α → Except ReadError α
  | some value => .ok value
  | none => .error (.missingField name)

end DetectionQuery.Rule
