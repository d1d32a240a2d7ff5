import DetectionQuery.Text.Layout

/-!
The shapes of pipeline stages.

As with query fragments, the parts are already written and are only put into their places. The
fields that events are grouped by stand behind the grouping stage, outside its braces, because
consumers read them there.
-/

namespace DetectionQuery.Query.Stage

open DetectionQuery.Text

def searchAll (queries : List String) : String :=
  bracketed (joined ", " (queries.map braced))

/-- The name of a rule for the events that match its query. -/
def typingBranch (query identifier : String) : String :=
  braced (joined ", "
    [member (inQuotes "case") query, member (inQuotes "then") (inQuotes identifier)])

def typing (branches : List String) : String :=
  braced (member (inQuotes "$addFields") (braced (member (inQuotes "event_type")
    (braced (member (inQuotes "$switch") (braced (member (inQuotes "branches")
      ("[" ++ joined ", " branches ++ "]"))))))))

def countEvents (measure : String) : String :=
  member (inQuotes measure) (braced (member (inQuotes "$sum") "1"))

def collectValues (measure field : String) : String :=
  member (inQuotes measure) (braced (member (inQuotes "$addToSet") (inQuotes ("$" ++ field))))

/-- Groups events by their time, cut down to a unit, and accumulates a measure; `suffix` stands
behind the stage. -/
def grouping (unit accumulator suffix : String) : String :=
  let date := member (inQuotes "date") (inQuotes "$@timestamp")
  let cut := braced (joined ", " [date, member (inQuotes "unit") (inQuotes unit)])
  let id := member (inQuotes "_id") (braced (member (inQuotes "$dateTrunc") cut))
  braced (member (inQuotes "$group") (braced (joined ", " [id, accumulator]))) ++ suffix

/-- The fields that events are grouped by, each behind a comma. -/
def groupSuffix (fields : List String) : String :=
  String.join (fields.map (", " ++ ·))

def matching (measure operator : String) (count : Nat) : String :=
  braced (member (inQuotes "$match")
    (braced (member (inQuotes measure) (braced (member operator (toString count))))))

def pipeline (stages : List String) : String :=
  bracketed (joined ", " stages)

end DetectionQuery.Query.Stage
