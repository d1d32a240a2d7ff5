/-!
Layout of the emitted text.

Objects and lists are written with one blank inside their brackets, a member is its key, a colon, a
blank and its value, and a separator stands between consecutive parts only. Every fragment of a
query and every stage of a pipeline is put together from these few shapes.
-/

namespace DetectionQuery.Text

/-- The parts in order, with `separator` between consecutive ones. -/
def joined (separator : String) : List String → String
  | [] => ""
  | [part] => part
  | part :: next :: rest => part ++ separator ++ joined separator (next :: rest)

def braced (body : String) : String :=
  "\x7b " ++ body ++ " \x7d"

def bracketed (body : String) : String :=
  "[ " ++ body ++ " ]"

/-- A text between double quotes, taken as it is. -/
def inQuotes (text : String) : String :=
  "\"" ++ text ++ "\""

/-- One member of an object. The key is written as given, quoted or bare. -/
def member (key value : String) : String :=
  key ++ ": " ++ value

end DetectionQuery.Text
