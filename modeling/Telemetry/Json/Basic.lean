/-!
# JSON values

A JSON text as a value that loses nothing: numbers keep their digits, objects the order and the repetitions of their
members. A string whose escapes spell an unpaired surrogate is no text; it is `none`, so that a reader who has no
use for it can pass over it.
-/

namespace Telemetry

namespace Json

/-- A number as it is written. -/
structure Number where
  negative : Bool
  whole : List Char
  /-- The digits behind the point; none if there is no point. -/
  fraction : List Char
  /-- The sign and the digits of the exponent. -/
  exponent : Option (Bool × List Char)
deriving DecidableEq, Repr

end Json

inductive Json
  | null
  | bool (value : Bool)
  | number (value : Json.Number)
  | string (text : Option String)
  | array (items : List Json)
  | object (members : List (Option String × Json))

end Telemetry
