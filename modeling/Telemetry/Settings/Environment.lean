import Telemetry.Binary64.Decimal
import Telemetry.Text.Blank
import Telemetry.Text.Parts
import Telemetry.Toml.Quoted
import Telemetry.Toml.Basic

/-!
# Environment variables as settings

A variable whose name starts with the prefix, in any case, names a setting by the rest of its name: `__` leads into a
table. Its value is written in a small notation of booleans, numbers, quoted text, arrays and tables; a text that is
not in the notation stands for itself, blanks and all.
-/

namespace Telemetry.Environment

/-- The prefix of the names that count. -/
def namePrefix : String := "PROMSCRAPE__"

/-! ## Names -/

/-- A dot for every two underscores, from left to right. -/
def undersToDots : List Char → List Char
  | '_' :: '_' :: rest => '.' :: undersToDots rest
  | c :: rest => c :: undersToDots rest
  | [] => []

/-- The path of the setting that a variable names. No part of it is empty; blanks around the name, and around the rest
of it behind the prefix, do not count. -/
def path? (name : String) : Option (List String) := do
  let lower := (Text.trim name.toList).map Char.toLower
  let rest ← (namePrefix.toList.map Char.toLower).isPrefixOf? lower
  let parts := Text.parts '.' (Text.trim (undersToDots rest))
  if parts.any List.isEmpty then none else some (parts.map String.ofList)

/-! ## Values -/

/-- Whether a character may stand around the parts of the notation. -/
def isBlank (c : Char) : Bool := c == ' ' || c == '\t' || c == '\n' || c == '\r' || c == '\x0c'

def skipBlanks (text : List Char) : List Char := text.dropWhile isBlank

def isSeparator (c : Char) : Bool := c == ',' || c == '\x7b' || c == '\x7d' || c == '[' || c == ']'

/-- The content of a quoted text up to its closing quote, escapes and all. -/
def rawQuoted : List Char → Option (List Char × List Char)
  | [] => none
  | '"' :: rest => some ([], rest)
  | '\\' :: c :: rest => (rawQuoted rest).map fun (cs, after) => ('\\' :: c :: cs, after)
  | c :: rest => (rawQuoted rest).map fun (cs, after) => (c :: cs, after)

/-- The text that a content with escapes stands for. Of the control characters only the tab stands for itself. -/
def unescape? : Nat → List Char → Option (List Char)
  | 0, _ => none
  | _, [] => some []
  | fuel + 1, '\\' :: rest => do
    let (c, rest) ← Toml.Quoted.escape? rest
    return c :: (← unescape? fuel rest)
  | fuel + 1, c :: rest => if Toml.Quoted.isPlain c then (unescape? fuel rest).map (c :: ·) else none

/-- What is kept of the text before the first escape: as many of its bytes as it has characters, which is all of it as
long as it is ASCII. -/
def beforeEscape? (text : List Char) : Option (List Char) :=
  if text.all Toml.Quoted.isPlain then Text.takeBytes? text.length text else none

/-- The text that the content between quotes stands for. Without an escape it is the content itself. -/
def content? (raw : List Char) : Option (List Char) :=
  match raw.span (· != '\\') with
  | (plain, []) => if plain.all Toml.Quoted.isPlain then some plain else none
  | (plain, escaped) => do return (← beforeEscape? plain) ++ (← unescape? (escaped.length + 1) escaped)

def quoted? (text : List Char) : Option (String × List Char) := do
  let (raw, rest) ← rawQuoted text
  return (String.ofList (← content? raw), rest)

def isIntWithin (limit : Nat) (digits : List Char) : Bool :=
  digits != [] && digits.all Char.isDigit && decide (Binary64.Decimal.digitsValue 0 digits ≤ limit)

/-- Whether an unquoted value is an integer of 64 bits: without a sign or with a plus up to 2^64 - 1, with a minus down
to -2^63. -/
def isInt : List Char → Bool
  | '-' :: rest => isIntWithin (Nat.pow 2 63) rest
  | '+' :: rest => isIntWithin (UInt64.size - 1) rest
  | text => isIntWithin (UInt64.size - 1) text

/-- An unquoted value: a number with a point, an integer, or text. -/
def bare (text : List Char) : Toml :=
  if (text.contains '.' && (Binary64.ofText? (String.ofList text)).isSome) || isInt text then .number
  else .string (String.ofList text)

/-- The name of a table entry, quoted or of letters, digits, underscores and hyphens. -/
def key? (text : List Char) : Option (String × List Char) :=
  match text with
  | '"' :: rest => quoted? rest
  | text =>
    match text.span fun c => c.isAlphanum || c == '_' || c == '-' with
    | ([], _) => none
    | (name, rest) => some (String.ofList name, rest)

def word? (word : String) (text : List Char) : Option (List Char) := word.toList.isPrefixOf? text

mutual

/-- A value with the blanks around it. Each step consumes a character, so the length of the text is fuel enough. -/
def value? : Nat → List Char → Option (Toml × List Char)
  | 0, _ => none
  | fuel + 1, text =>
    let text := skipBlanks text
    let found : Option (Toml × List Char) := match word? "true" text, word? "false" text with
      | some rest, _ => some (.bool true, rest)
      | _, some rest => some (.bool false, rest)
      | none, none =>
        match text with
        | '\x7b' :: rest => (entries? fuel rest).map fun (es, after) => (.table .inline es, after)
        | '[' :: rest => (items? fuel rest).map fun (items, after) => (.array false items, after)
        | '"' :: rest => (quoted? rest).map fun (s, after) => (.string s, after)
        | '\'' :: c :: '\'' :: rest => some (.string (String.ofList [c]), rest)
        | '\'' :: _ => none
        | text =>
          some (bare (Text.trim (text.takeWhile fun c => !isSeparator c)), text.dropWhile fun c => !isSeparator c)
    found.map fun (v, rest) => (v, skipBlanks rest)

def items? : Nat → List Char → Option (List Toml × List Char)
  | 0, _ => none
  | _, ']' :: after => some ([], after)
  | fuel + 1, text => do
    let (item, rest) ← value? fuel text
    match rest with
    | ',' :: rest =>
      let (items, after) ← items? fuel rest
      return (item :: items, after)
    | ']' :: after => return ([item], after)
    | _ => none

def entries? : Nat → List Char → Option (Toml.Entries × List Char)
  | 0, _ => none
  | _, '\x7d' :: after => some ([], after)
  | fuel + 1, text => do
    let (key, rest) ← key? (skipBlanks text)
    match skipBlanks rest with
    | '=' :: rest =>
      let (value, rest) ← value? fuel rest
      match rest with
      | ',' :: rest =>
        let (entries, after) ← entries? fuel rest
        return ((if (entries.lookup key).isSome then entries else (key, value) :: entries), after)
      | '\x7d' :: after => return ([(key, value)], after)
      | _ => none
    | _ => none

end

def value (text : String) : Toml :=
  match value? (2 * text.length + 1) text.toList with
  | some (v, []) => v
  | _ => .string text

/-! ## Variables -/

/-- The tables around a value at a path. -/
def nest : List String → Toml → Toml
  | [], v => v
  | part :: path, v => .table .inline [(part, nest path v)]

/-- The settings that variables give; a later one is laid over the earlier. -/
def settings (environment : List (String × String)) : Toml :=
  environment.foldl (fun merged (name, text) =>
    match path? name with
    | some path => merged.merge (nest path (value text))
    | none => merged) (.table .inline [])

end Telemetry.Environment
