import Telemetry.Text.Hex

/-!
# Quoted TOML text

Basic strings with escapes between double quotes, literal ones between single quotes, and both over several lines
between triple quotes.
-/

namespace Telemetry.Toml.Quoted

/-- Whether a character may stand in a string or a comment. -/
def isPlain (c : Char) : Bool := c == '\t' || (' ' ≤ c && c != '\x7f')

def escape? : List Char → Option (Char × List Char)
  | 'b' :: rest => some ('\x08', rest)
  | 't' :: rest => some ('\t', rest)
  | 'n' :: rest => some ('\n', rest)
  | 'f' :: rest => some ('\x0c', rest)
  | 'r' :: rest => some ('\r', rest)
  | '"' :: rest => some ('"', rest)
  | '\\' :: rest => some ('\\', rest)
  | 'u' :: rest => if 4 ≤ rest.length then (Text.Hex.scalar? (rest.take 4)).map (·, rest.drop 4) else none
  | 'U' :: rest => if 8 ≤ rest.length then (Text.Hex.scalar? (rest.take 8)).map (·, rest.drop 8) else none
  | _ => none

def lineBreak? : List Char → Option (List Char)
  | '\n' :: rest => some rest
  | '\r' :: '\n' :: rest => some rest
  | _ => none

def basic : Nat → List Char → Option (List Char × List Char)
  | 0, _ => none
  | fuel + 1, text =>
    match text with
    | [] => none
    | '"' :: rest => some ([], rest)
    | '\\' :: rest => do
      let (c, rest) ← escape? rest
      let (cs, after) ← basic fuel rest
      return (c :: cs, after)
    | c :: rest =>
      if isPlain c then (basic fuel rest).map fun (cs, after) => (c :: cs, after) else none

def literal : List Char → Option (List Char × List Char)
  | [] => none
  | '\'' :: rest => some ([], rest)
  | c :: rest => if isPlain c then (literal rest).map fun (cs, after) => (c :: cs, after) else none

/-- Up to two quotes may stand before the three that close a string of several lines. -/
def closing? (quote : Char) (text : List Char) : Option (List Char × List Char) :=
  let quotes := (text.takeWhile (· == quote)).length
  if 3 ≤ quotes then
    let kept := min (quotes - 3) 2
    some (List.replicate kept quote, text.drop (kept + 3))
  else none

def skipBlankLines : List Char → List Char
  | ' ' :: rest => skipBlankLines rest
  | '\t' :: rest => skipBlankLines rest
  | '\n' :: rest => skipBlankLines rest
  | '\r' :: '\n' :: rest => skipBlankLines rest
  | text => text

/-- Whether a backslash stands at the end of a line, but for blanks; if so, what follows the break and all blanks and
breaks behind it. -/
def continued? (text : List Char) : Option (List Char) :=
  (lineBreak? (text.dropWhile fun c => c == ' ' || c == '\t')).map skipBlankLines

/-- The rest of a string of several lines, and what follows its closing quotes. -/
def multiline (quote : Char) : Nat → List Char → Option (List Char × List Char)
  | 0, _ => none
  | fuel + 1, text =>
    match closing? quote text with
    | some found => some found
    | none =>
      match lineBreak? text with
      | some rest => (multiline quote fuel rest).map fun (cs, after) => ('\n' :: cs, after)
      | none =>
        match text with
        | [] => none
        | c :: rest =>
          if c = '\\' ∧ quote = '"' then
            match continued? rest with
            | some rest => multiline quote fuel rest
            | none => do
              let (c, rest) ← escape? rest
              let (cs, after) ← multiline quote fuel rest
              return (c :: cs, after)
          else if isPlain c then (multiline quote fuel rest).map fun (cs, after) => (c :: cs, after)
          else none

def oneLine? : List Char → Option (String × List Char)
  | '"' :: rest => (basic (rest.length + 1) rest).map fun (cs, after) => (String.ofList cs, after)
  | '\'' :: rest => (literal rest).map fun (cs, after) => (String.ofList cs, after)
  | _ => none

/-- A string of any kind, from its opening quote on. A line break right behind triple quotes does not count. -/
def string? (text : List Char) : Option (String × List Char) :=
  match text with
  | '"' :: '"' :: '"' :: rest => many '"' rest
  | '\'' :: '\'' :: '\'' :: rest => many '\'' rest
  | text => oneLine? text
where
  many (quote : Char) (rest : List Char) : Option (String × List Char) :=
    let rest := (lineBreak? rest).getD rest
    (multiline quote (rest.length + 1) rest).map fun (cs, after) => (String.ofList cs, after)

end Telemetry.Toml.Quoted
