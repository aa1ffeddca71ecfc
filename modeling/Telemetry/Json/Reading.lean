import Telemetry.Json.Number

/-!
# Reading values by type

A structure is read from an object, whose unknown members are passed over and whose known ones occur once, or from
an array with the fields in their order. Fields that have a default may be missing; at the end of the array, too.
-/

namespace Telemetry.Json

def text? : Json → Option String
  | string text => text
  | _ => none

def bool? : Json → Option Bool
  | bool value => some value
  | _ => none

def binary64? : Json → Option Binary64
  | number n => n.toBinary64?
  | _ => none

def int64? : Json → Option Int
  | number n => n.toInt64?
  | _ => none

/-- The items of an array, each read by `item`. -/
def list? {α : Type} (item : Json → Option α) : Json → Option (List α)
  | array items => items.mapM item
  | _ => none

/-- The members of an object with their names, each value read by `value`. -/
def entries? {α : Type} (value : Json → Option α) : Json → Option (List (String × α))
  | object members => members.mapM fun (key, v) => do return (← key, ← value v)
  | _ => none

/-- The values of the named fields in the given order, with `none` for a missing one. -/
def fields? (names : List String) : Json → Option (List (Option Json))
  | object members => do
    let named ← members.mapM fun (key, v) => key.map fun k => (k, v)
    if names.all fun name => decide (named.countP (fun (key, _) => key == name) ≤ 1) then
      return names.map fun name => named.lookup name
    else none
  | array items =>
    if items.length ≤ names.length then
      some (items.map some ++ List.replicate (names.length - items.length) none)
    else none
  | _ => none

def required {α : Type} (read : Json → Option α) (field : Option Json) : Option α := field.bind read

def defaulted {α : Type} (default : α) (read : Json → Option α) : Option Json → Option α
  | none => some default
  | some value => read value

def nullable {α : Type} (read : Json → Option α) : Json → Option (Option α)
  | null => some none
  | value => (read value).map some

end Telemetry.Json
