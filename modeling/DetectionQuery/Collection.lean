import DetectionQuery.Rule.Read

/-!
Collections of rules, in order.
-/

namespace DetectionQuery

open DetectionQuery.Rule (ReadError)

/-- Rules in order. A reference stands for the first rule with that id or name. -/
structure Collection where
  rules : List Rule

namespace Collection

def empty : Collection := ⟨[]⟩

def size (collection : Collection) : Nat :=
  collection.rules.length

def isEmpty (collection : Collection) : Bool :=
  collection.rules.isEmpty

def add (collection : Collection) (rule : Rule) : Collection :=
  ⟨collection.rules ++ [rule]⟩

def append (first second : Collection) : Collection :=
  ⟨first.rules ++ second.rules⟩

instance : Append Collection := ⟨append⟩

/-- The rule that a reference stands for. -/
def find? (collection : Collection) (reference : String) : Option Rule :=
  collection.rules.find? (·.isReferencedBy reference)

/-- The rules of a text, one in each of its documents. -/
def ofText (text : String) : Except ReadError Collection := do
  return ⟨← (Yaml.documents text).mapM Rule.ofDocument⟩

end Collection

end DetectionQuery
