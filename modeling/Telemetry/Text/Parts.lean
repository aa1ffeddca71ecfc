/-!
# Parts of a text

The text between separators, and the text between two positions. Positions count the bytes of the UTF-8 form; one
within a character cuts nothing out.
-/

namespace Telemetry.Text

/-- The parts between the places of a separator: one more than there are places. -/
def parts (separator : Char) : List Char → List (List Char)
  | [] => [[]]
  | c :: rest =>
    match parts separator rest with
    | [] => [[c]]
    | first :: others => if c = separator then [] :: first :: others else (c :: first) :: others

def dropBytes? : Nat → List Char → Option (List Char)
  | 0, text => some text
  | _ + 1, [] => none
  | n + 1, c :: rest => if c.utf8Size ≤ n + 1 then dropBytes? (n + 1 - c.utf8Size) rest else none

def takeBytes? : Nat → List Char → Option (List Char)
  | 0, _ => some []
  | _ + 1, [] => none
  | n + 1, c :: rest =>
    if c.utf8Size ≤ n + 1 then (takeBytes? (n + 1 - c.utf8Size) rest).map (c :: ·) else none

def cut? (first last : Nat) (text : List Char) : Option (List Char) :=
  (dropBytes? first text).bind (takeBytes? (last - first))

end Telemetry.Text
