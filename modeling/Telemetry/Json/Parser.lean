import Telemetry.Json.Basic
import Telemetry.Text.Hex

/-!
# Reading JSON text

`parse?` reads one value with nothing but blanks around it.
-/

namespace Telemetry.Json

def skipBlanks (text : List Char) : List Char := text.dropWhile fun c => c == ' ' || c == '\t' || c == '\n' || c == '\r'

/-! ## Strings -/

def escaped? : Char → Option Char
  | '"' => some '"'
  | '\\' => some '\\'
  | '/' => some '/'
  | 'b' => some '\x08'
  | 'f' => some '\x0c'
  | 'n' => some '\n'
  | 'r' => some '\r'
  | 't' => some '\t'
  | _ => none

def hexValue? (digits : List Char) : Option Nat :=
  digits.foldlM (fun n c => (Text.Hex.digit? c).map (16 * n + ·)) 0

/-- The code points and UTF-16 units of a string up to its closing quote, and what follows the quote. -/
def codes? : List Char → Option (List Nat × List Char)
  | [] => none
  | '"' :: rest => some ([], rest)
  | '\\' :: 'u' :: a :: b :: c :: d :: rest =>
    match hexValue? [a, b, c, d], codes? rest with
    | some n, some (codes, after) => some (n :: codes, after)
    | _, _ => none
  | '\\' :: c :: rest =>
    match escaped? c, codes? rest with
    | some e, some (codes, after) => some (e.toNat :: codes, after)
    | _, _ => none
  | c :: rest =>
    if c < ' ' then none
    else match codes? rest with
      | some (codes, after) => some (c.toNat :: codes, after)
      | none => none

def isHighSurrogate (n : Nat) : Bool := decide (0xd800 ≤ n ∧ n < 0xdc00)

def isLowSurrogate (n : Nat) : Bool := decide (0xdc00 ≤ n ∧ n < 0xe000)

/-- The characters that codes spell, a pair of surrogates one character; `none` if one has no partner. -/
def charsOf? : List Nat → Option (List Char)
  | [] => some []
  | high :: low :: rest =>
    if isHighSurrogate high then
      if isLowSurrogate low then
        (charsOf? rest).map (Char.ofNat (0x10000 + (high - 0xd800) * 0x400 + (low - 0xdc00)) :: ·)
      else none
    else if isLowSurrogate high then none
    else (charsOf? (low :: rest)).map (Char.ofNat high :: ·)
  | [n] => if isHighSurrogate n || isLowSurrogate n then none else some [Char.ofNat n]

def string? (text : List Char) : Option (Option String × List Char) :=
  (codes? text).map fun (codes, rest) => ((charsOf? codes).map String.ofList, rest)

/-! ## Numbers -/

/-- At least one digit, and what follows the digits. -/
def digits? (text : List Char) : Option (List Char × List Char) :=
  match text.span Char.isDigit with
  | ([], _) => none
  | found => some found

def fraction? : List Char → Option (List Char × List Char)
  | '.' :: rest => digits? rest
  | rest => some ([], rest)

def exponent? : List Char → Option (Option (Bool × List Char) × List Char)
  | mark :: rest =>
    if mark = 'e' ∨ mark = 'E' then
      let (negative, unsigned) := match rest with
        | '-' :: rest => (true, rest)
        | '+' :: rest => (false, rest)
        | rest => (false, rest)
      (digits? unsigned).map fun (digits, after) => (some (negative, digits), after)
    else some (none, mark :: rest)
  | [] => some (none, [])

/-- A number; `0` leads no other digit. -/
def number? (text : List Char) : Option (Number × List Char) := do
  let (negative, unsigned) := match text with
    | '-' :: rest => (true, rest)
    | rest => (false, rest)
  let (whole, rest) ← digits? unsigned
  if whole.head? = some '0' ∧ 1 < whole.length then none
  let (fraction, rest) ← fraction? rest
  let (exponent, rest) ← exponent? rest
  return (⟨negative, whole, fraction, exponent⟩, rest)

/-! ## Values -/

/-- A value that one word spells. -/
def word? (word : String) (value : Json) (text : List Char) : Option (Json × List Char) :=
  (word.toList.isPrefixOf? text).map fun rest => (value, rest)

mutual

/-- A value at the start of a text. Each step consumes a character, so the length of the text is fuel enough. -/
def value? : Nat → List Char → Option (Json × List Char)
  | 0, _ => none
  | fuel + 1, text =>
    match skipBlanks text with
    | '"' :: rest => (string? rest).map fun (s, after) => (string s, after)
    | '[' :: rest =>
      match skipBlanks rest with
      | ']' :: after => some (array [], after)
      | rest => (items? fuel rest).map fun (items, after) => (array items, after)
    | '\x7b' :: rest =>
      match skipBlanks rest with
      | '\x7d' :: after => some (object [], after)
      | rest => (members? fuel rest).map fun (members, after) => (object members, after)
    | 'n' :: rest => word? "ull" null rest
    | 't' :: rest => word? "rue" (bool true) rest
    | 'f' :: rest => word? "alse" (bool false) rest
    | rest => (number? rest).map fun (n, after) => (number n, after)

def items? : Nat → List Char → Option (List Json × List Char)
  | 0, _ => none
  | fuel + 1, text =>
    match value? fuel text with
    | none => none
    | some (item, rest) =>
      match skipBlanks rest with
      | ']' :: after => some ([item], after)
      | ',' :: rest => (items? fuel rest).map fun (items, after) => (item :: items, after)
      | _ => none

def members? : Nat → List Char → Option (List (Option String × Json) × List Char)
  | 0, _ => none
  | fuel + 1, text =>
    match skipBlanks text with
    | '"' :: rest =>
      match string? rest with
      | none => none
      | some (key, rest) =>
        match skipBlanks rest with
        | ':' :: rest =>
          match value? fuel rest with
          | none => none
          | some (value, rest) =>
            match skipBlanks rest with
            | '\x7d' :: after => some ([(key, value)], after)
            | ',' :: rest => (members? fuel rest).map fun (members, after) => ((key, value) :: members, after)
            | _ => none
        | _ => none
    | _ => none

end

def parse? (text : String) : Option Json :=
  let chars := text.toList
  match value? (2 * chars.length + 1) chars with
  | some (value, rest) => if skipBlanks rest = [] then some value else none
  | none => none

end Telemetry.Json
