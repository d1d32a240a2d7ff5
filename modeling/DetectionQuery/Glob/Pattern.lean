/-!
Wildcard patterns over names and paths.

In a pattern `?` stands for one character, `*` for any run of characters, `**` as a whole path
component for any run of components, and `[…]` or `[!…]` for one character in or outside a set;
every other character stands for itself. `Pattern.parse` refuses a run of more than two `*`, a `**`
that is not a whole component, and a bracket that opens no set, and says where.
-/

namespace DetectionQuery.Glob

/-- One element of a set of characters. -/
inductive Span where
  | single (c : Char)
  | range (first last : Char)
deriving DecidableEq, Repr

/-- One element of a pattern. -/
inductive Token where
  | char (c : Char)
  | anyChar
  | anySequence
  | anyRecursive
  | within (spans : List Span)
  | outside (spans : List Span)
deriving DecidableEq, Repr

/-- Why a text is no pattern. -/
inductive FaultCause where
  | tooManyStars
  | partialComponent
  | invalidRange
deriving DecidableEq, Repr

/-- Why and where a text is no pattern; positions count characters from zero. -/
structure Fault where
  position : Nat
  cause : FaultCause
deriving DecidableEq, Repr

def FaultCause.message : FaultCause → String
  | .tooManyStars => "wildcards are either regular `*` or recursive `**`"
  | .partialComponent => "recursive wildcards must form a single path component"
  | .invalidRange => "invalid range pattern"

def Fault.message (fault : Fault) : String :=
  "Pattern syntax error near position " ++ toString fault.position ++ ": " ++ fault.cause.message

/-- The set between two brackets. A dash between two characters spans a range. -/
def spans : List Char → List Span
  | first :: '-' :: last :: rest => .range first last :: spans rest
  | c :: rest => .single c :: spans rest
  | [] => []

def splitAtBracket : List Char → Option (List Char × List Char)
  | [] => none
  | ']' :: rest => some ([], rest)
  | c :: rest => (splitAtBracket rest).map fun (before, after) => (c :: before, after)

/-- The set that an opening bracket opens, with what follows it. The first character of a set is
never its closing bracket. -/
def bracket? : List Char → Option (Token × List Char)
  | '!' :: c :: rest =>
    (splitAtBracket rest).map fun (before, after) => (.outside (spans (c :: before)), after)
  | c :: rest =>
    if c = '!' then none
    else (splitAtBracket rest).map fun (before, after) => (.within (spans (c :: before)), after)
  | [] => none

/-- The elements after those in `found`, which is in reverse; the first `position` characters are
read, and `fresh` says that a path component starts here. Consecutive `**` components count once. -/
def parseFrom (position : Nat) (fresh : Bool) (found : List Token) :
    Nat → List Char → Except Fault (List Token)
  | 0, _ => .ok found.reverse
  | _, [] => .ok found.reverse
  | fuel + 1, '?' :: rest => parseFrom (position + 1) false (.anyChar :: found) fuel rest
  | fuel + 1, '*' :: '*' :: rest =>
    match rest with
    | '*' :: _ => .error ⟨position + 2, .tooManyStars⟩
    | _ =>
      if !fresh then .error ⟨position - 1, .partialComponent⟩
      else
        -- A second one right behind the start of the pattern is kept.
        let extended := match found with
          | .anyRecursive :: _ :: _ => found
          | _ => .anyRecursive :: found
        match rest with
        | [] => .ok extended.reverse
        | '/' :: after => parseFrom (position + 3) true extended fuel after
        | _ => .error ⟨position + 2, .partialComponent⟩
  | fuel + 1, '*' :: rest => parseFrom (position + 1) false (.anySequence :: found) fuel rest
  | fuel + 1, '[' :: rest =>
    match bracket? rest with
    | some (token, after) =>
      parseFrom (position + 1 + (rest.length - after.length)) false (token :: found) fuel after
    | none => .error ⟨position, .invalidRange⟩
  | fuel + 1, c :: rest => parseFrom (position + 1) (c = '/') (.char c :: found) fuel rest

def parse (pattern : String) : Except Fault (List Token) :=
  parseFrom 0 true [] pattern.length pattern.toList

end DetectionQuery.Glob
