import DetectionQuery.Glob.Pattern

/-!
Matching a name against a wildcard pattern.

The matcher backtracks over the runs that `*` and `**` may stand for. A name that ends too early
ends it too early for every longer run as well, so that outcome, `Outcome.exhausted`, ends the
search at once.
-/

namespace DetectionQuery.Glob

/-- How matching the rest of a pattern against the rest of a name ends. -/
inductive Outcome where
  | found
  /-- No match here; a longer run may still lead to one. -/
  | mismatch
  /-- The name ended before the pattern: no longer run can lead to a match. -/
  | exhausted
deriving DecidableEq, Repr

def Span.holds : Span → Char → Bool
  | .single c, d => c = d
  | .range first last, d => first ≤ d && d ≤ last

/-- Whether an element that stands for exactly one character may stand for `c`. -/
def Token.accepts : Token → Char → Bool
  | .char d, c => c = d
  | .anyChar, _ => true
  | .within spans, c => spans.any (·.holds c)
  | .outside spans, c => !spans.any (·.holds c)
  | .anySequence, _ => false
  | .anyRecursive, _ => false

/-- Tries `rest` after every run of characters, the shortest first. -/
def sweep (rest : List Char → Outcome) : List Char → Outcome
  | [] => rest []
  | c :: cs =>
    match rest (c :: cs) with
    | .mismatch => sweep rest cs
    | outcome => outcome

/-- Tries `rest` after every run of characters that ends in a path separator, and last at the end of
the name. -/
def sweepComponents (rest : List Char → Outcome) : List Char → Outcome
  | [] => rest []
  | '/' :: cs =>
    match rest cs with
    | .mismatch => sweepComponents rest cs
    | outcome => outcome
  | _ :: cs => sweepComponents rest cs

/-- Matches a whole name against the rest of a pattern. -/
def run : List Token → List Char → Outcome
  | [], cs => if cs.isEmpty then .found else .mismatch
  | .anySequence :: tokens, cs => sweep (run tokens) cs
  | .anyRecursive :: tokens, cs =>
    match run tokens cs with
    | .mismatch => sweepComponents (run tokens) cs
    | outcome => outcome
  | _ :: _, [] => .exhausted
  | token :: tokens, c :: cs => if token.accepts c then run tokens cs else .mismatch

def isMatch (tokens : List Token) (name : String) : Bool :=
  run tokens name.toList = .found

end DetectionQuery.Glob
