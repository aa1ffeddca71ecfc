import Telemetry.Binary64.Decimal
import Telemetry.Pattern.Validity
import Telemetry.Text.Alphanumeric
import Telemetry.Text.Blank
import Telemetry.Text.Parts

/-!
# Filters of events

A filter has directives with commas between them, each with an optional target, an optional span in brackets with a
field in braces, and an optional level. A field may ask for a value: a number or a pattern.

A directive is read without the blanks around it, but its field and its level are cut out of the text as it stands, by
the positions that they have without the blanks. So blanks before a directive shift both.
-/

namespace Telemetry.LogFilter

/-! ## Levels and fields -/

/-- Whether a text names a level: by a word in any case, or by a number up to 5. -/
def isLevel (text : List Char) : Bool :=
  let unsigned := if text.head? = some '+' then text.tail else text
  let isNumber := unsigned != [] && unsigned.all Char.isDigit &&
    decide (unsigned.foldl (fun n c => 10 * n + (c.toNat - '0'.toNat)) 0 ≤ 5)
  isNumber || ["error", "warn", "info", "debug", "trace", "off"].contains (String.ofList (text.map Char.toLower))

/-- Whether a text is a field: a name, or a name and a value. What stands behind a second equals sign does not count. -/
def isField (text : List Char) : Bool :=
  match Text.parts '=' text with
  | _ :: value :: _ => (Binary64.ofText? (String.ofList value)).isSome || Pattern.isPattern value
  | _ => true

/-! ## Directives -/

/-- What is being read within a directive; of a field and a level, from which position on. -/
inductive Reading
  | start
  | target
  | span
  | field (first : Nat)
  | fieldEnd
  | spanEnd
  | level (first : Nat)
deriving DecidableEq, Repr

/-- What is read behind one more character, at a position of a directive, if it may stand there. -/
def step (directive : List Char) (position : Nat) (c : Char) : Reading → Option Reading
  | .start =>
    if c = '[' then some .span
    else if c = '-' ∨ c = ':' ∨ c = '_' ∨ Text.isAlphanumeric c then some .target
    else none
  | .target => some (if c = '=' then .level (position + 1) else if c = '[' then .span else .target)
  | .span => some (if c = ']' then .spanEnd else if c = '\x7b' then .field (position + 1) else .span)
  | .field first =>
    if c = '\x7d' then
      if first < position ∧ (Text.cut? first position directive).any isField then some .fieldEnd else none
    else some (.field first)
  | .fieldEnd => if c = ']' then some .spanEnd else none
  | .spanEnd => if c = '=' then some (.level (position + 1)) else none
  | .level first => some (.level first)

/-- What is read behind a text that starts at a position of a directive. -/
def readFrom (directive : List Char) : Nat → Reading → List Char → Option Reading
  | _, reading, [] => some reading
  | position, reading, c :: rest =>
    (step directive position c reading).bind fun next => readFrom directive (position + c.utf8Size) next rest

def isDirective (text : List Char) : Bool :=
  match readFrom text 0 .start (Text.trim text) with
  | some .target | some .spanEnd => true
  | some (.level first) => (Text.dropBytes? first text).any fun level => level.isEmpty || isLevel level
  | _ => false

/-- Whether a text is a filter; empty directives are passed over. -/
def isFilter (text : String) : Bool := (Text.parts ',' text.toList).all fun part => part.isEmpty || isDirective part

end Telemetry.LogFilter
