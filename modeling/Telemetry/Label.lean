/-!
# Labels

A label is a name with a value; a label list keeps its order and may repeat a name.
-/

namespace Telemetry

structure Label where
  name : String
  value : String
deriving DecidableEq, Repr

namespace Label

/-- The value of the first label of this name. -/
def lookup? (labels : List Label) (name : String) : Option String :=
  (labels.find? fun l => l.name == name).map Label.value

/-- The labels as diagnostics show them: pairs joined by commas, nothing escaped. -/
def render (labels : List Label) : String :=
  ",".intercalate (labels.map fun l => l.name ++ "=\"" ++ l.value ++ "\"")

/-- The first name in the list that also stands before it, or that occurs in `seen`. -/
def repeatedName? (seen : List String) : List Label → Option String
  | [] => none
  | l :: rest => if l.name ∈ seen then some l.name else repeatedName? (l.name :: seen) rest

end Label

end Telemetry
