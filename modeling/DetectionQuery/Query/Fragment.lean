import DetectionQuery.Text.Layout

/-!
The shapes of query fragments.

Every function takes parts that are already escaped and written, and only puts them into their
places. Consumers read these shapes character by character, so the odd ones stay as they are: the
operator of a comparison and the field of an existence test are written without quotes.
-/

namespace DetectionQuery.Query.Fragment

open DetectionQuery.Text

def group (operator : String) (children : List String) (separator : String) : String :=
  braced (member (inQuotes operator) (bracketed (joined separator children)))

/-- The field equals a text, given without its quotes. -/
def fieldText (field text : String) : String :=
  braced (member (inQuotes field) (inQuotes text))

def fieldValue (field value : String) : String :=
  braced (member (inQuotes field) value)

/-- The field matches a regular expression, given without its quotes. -/
def fieldRegex (field token expression : String) : String :=
  braced (member (inQuotes field) (braced (member (inQuotes token) (inQuotes expression))))

def contains (field token text : String) : String :=
  fieldRegex field token text

def startsWith (field token text : String) : String :=
  fieldRegex field token ("^" ++ text)

def endsWith (field token text : String) : String :=
  fieldRegex field token (text ++ "$")

/-- A value occurs anywhere in the event. -/
def keyword (value : String) : String :=
  braced (member (inQuotes "$text") (braced (member (inQuotes "$search") value)))

def oneOf (field token : String) (values : List String) (separator : String) : String :=
  braced (member (inQuotes field)
    (braced (member (inQuotes token) (bracketed (joined separator values)))))

def compare (field operator value : String) : String :=
  braced (member (inQuotes field) (braced (member operator value)))

def fieldExists (field flag : String) : String :=
  braced (member field (braced (member (inQuotes "$exists") flag)))

def isNull (field : String) : String :=
  fieldExists field "false"

/-- Two fields have the same value. -/
def sameField (field other : String) : String :=
  braced (member (inQuotes "$expr") (braced (member (inQuotes "$eq")
    ("[" ++ inQuotes ("$" ++ field) ++ ", " ++ inQuotes ("$" ++ other) ++ "]"))))

end DetectionQuery.Query.Fragment
