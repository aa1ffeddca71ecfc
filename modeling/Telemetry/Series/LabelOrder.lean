import Telemetry.Label
import Telemetry.Sorting

/-!
# Label order

The label names of a family in the order in which they were first seen. Points show their labels in this order, so
that all points of a family agree on it. Names are never removed.
-/

namespace Telemetry

structure LabelOrder where
  names : List String
deriving DecidableEq, Repr

namespace LabelOrder

def empty : LabelOrder := ⟨[]⟩

/-- Puts a name that was not seen before behind the others. -/
def insert (order : LabelOrder) (name : String) : LabelOrder :=
  if name ∈ order.names then order else ⟨order.names ++ [name]⟩

def observe (order : LabelOrder) (labels : List Label) : LabelOrder :=
  labels.foldl (fun o l => o.insert l.name) order

def position? (order : LabelOrder) (name : String) : Option Nat := order.names.idxOf? name

/-- Whether `a` may stand before `b`: names that were not seen come last, by name. -/
def le (order : LabelOrder) (a b : Label) : Bool :=
  let i := order.names.idxOf a.name
  let j := order.names.idxOf b.name
  decide (i < j) || (i == j && decide (a.name ≤ b.name))

def arrange (order : LabelOrder) (labels : List Label) : List Label := sortBy order.le labels

end LabelOrder

end Telemetry
