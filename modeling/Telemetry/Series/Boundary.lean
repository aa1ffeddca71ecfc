import Telemetry.Binary64.Decimal
import Telemetry.Text.Blank

/-!
# Boundaries

The upper bound of a bucket and the quantile of a summary arrive as label text and key a map. No NaN is a boundary,
and both zeros are the boundary `0`, so that the total order of the map is the order of the numbers.
-/

namespace Telemetry

/-- The boundary that a label value spells, blanks around it dropped. -/
def boundary? (text : String) : Option Binary64 :=
  match Binary64.ofText? (String.ofList (Text.trim text.toList)) with
  | some x => if x.isNaN then none else some (if x.sameNumber .zero then .zero else x)
  | none => none

/-- Values by boundary, in ascending total order. -/
structure BoundaryMap where
  entries : List (Binary64 × Binary64)
deriving DecidableEq, Repr

namespace BoundaryMap

def empty : BoundaryMap := ⟨[]⟩

def isEmpty (m : BoundaryMap) : Bool := m.entries.isEmpty

/-- Sets the value at a boundary in an ascending list. -/
def insertEntry (boundary value : Binary64) : List (Binary64 × Binary64) → List (Binary64 × Binary64)
  | [] => [(boundary, value)]
  | (b, v) :: rest =>
    match boundary.totalCompare b with
    | .lt => (boundary, value) :: (b, v) :: rest
    | .eq => (b, value) :: rest
    | .gt => (b, v) :: insertEntry boundary value rest

def insert (m : BoundaryMap) (boundary value : Binary64) : BoundaryMap := ⟨insertEntry boundary value m.entries⟩

def find? (m : BoundaryMap) (boundary : Binary64) : Option Binary64 := m.entries.lookup boundary

end BoundaryMap

end Telemetry
