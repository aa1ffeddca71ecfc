import Telemetry.Binary64.Decimal
import Telemetry.Toml.Basic

/-!
# Unquoted TOML values

Booleans, integers, floats, dates and times: what stands in a document without quotes and brackets.
-/

namespace Telemetry.Toml.Scalar

/-- The digits of a number without the underscores between them; an underscore stands between two digits only. -/
def digits? (isDigit : Char → Bool) : List Char → Option (List Char)
  | [] => none
  | [c] => if isDigit c then some [c] else none
  | c :: '_' :: rest => if isDigit c then (digits? isDigit rest).map (c :: ·) else none
  | c :: rest => if isDigit c then (digits? isDigit rest).map (c :: ·) else none

def valueIn (base : Nat) (digits : List Char) : Nat :=
  digits.foldl (fun n c => base * n + (if c.isDigit then c.toNat - '0'.toNat else c.toLower.toNat - 'a'.toNat + 10)) 0

/-- Decimal digits that do not start with a superfluous zero. -/
def decimalDigits? (text : List Char) : Option (List Char) :=
  (digits? Char.isDigit text).filter fun ds => ds.length == 1 || ds.head? != some '0'

/-- An integer in a base that a mark names. -/
def basedInt? (base : Nat) (isDigit : Char → Bool) (text : List Char) : Bool :=
  match digits? isDigit text with
  | some ds => decide (valueIn base ds < Nat.pow 2 63)
  | none => false

/-- Whether a text is an integer of 64 bits. -/
def isInt (text : List Char) : Bool :=
  match text with
  | '0' :: 'x' :: rest =>
    basedInt? 16 (fun c => c.isDigit || ('a' ≤ c && c ≤ 'f') || ('A' ≤ c && c ≤ 'F')) rest
  | '0' :: 'o' :: rest => basedInt? 8 (fun c => '0' ≤ c && c ≤ '7') rest
  | '0' :: 'b' :: rest => basedInt? 2 (fun c => c == '0' || c == '1') rest
  | text =>
    let (negative, unsigned) := Binary64.Decimal.splitSign text
    match decimalDigits? unsigned with
    | some ds => decide (valueIn 10 ds < Nat.pow 2 63 + if negative then 1 else 0)
    | none => false

/-- Whether a text is a float: decimal digits with a fraction, an exponent or both, and not beyond the largest double;
or `inf` or `nan`. -/
def isFloat (text : List Char) : Bool :=
  let (negative, unsigned) := Binary64.Decimal.splitSign text
  if unsigned = "inf".toList ∨ unsigned = "nan".toList then true
  else
    let isMark (c : Char) : Bool := c == 'e' || c == 'E'
    let mantissa := unsigned.takeWhile fun c => !isMark c
    let exponent := unsigned.dropWhile fun c => !isMark c
    let whole := mantissa.takeWhile (· != '.')
    let fraction := mantissa.dropWhile (· != '.')
    let exponentOk := match exponent with
      | [] => true
      | _ :: rest => (digits? Char.isDigit (Binary64.Decimal.splitSign rest).2).isSome
    let fractionOk := match fraction with
      | [] => true
      | _ :: rest => (digits? Char.isDigit rest).isSome
    let inRange := match Binary64.Decimal.ofText? (unsigned.filter (· != '_')) with
      | some d => negative || decide (d.magnitude < Binary64.infMagnitude)
      | none => false
    (decimalDigits? whole).isSome && fractionOk && exponentOk && (fraction != [] || exponent != []) && inRange

/-- The number that exactly `count` digits spell, and what follows them. -/
def fixed? (count : Nat) (text : List Char) : Option (Nat × List Char) :=
  let ds := text.take count
  if ds.length = count ∧ ds.all Char.isDigit then some (valueIn 10 ds, text.drop count) else none

def after? (c : Char) : List Char → Option (List Char)
  | [] => none
  | d :: rest => if d = c then some rest else none

def daysIn (year month : Nat) : Nat :=
  if month = 2 then (if year % 4 = 0 ∧ (year % 100 ≠ 0 ∨ year % 400 = 0) then 29 else 28)
  else if month = 4 ∨ month = 6 ∨ month = 9 ∨ month = 11 then 30
  else 31

def date? (text : List Char) : Option (List Char) := do
  let (year, rest) ← fixed? 4 text
  let (month, rest) ← fixed? 2 (← after? '-' rest)
  let (day, rest) ← fixed? 2 (← after? '-' rest)
  if 1 ≤ month ∧ month ≤ 12 ∧ 1 ≤ day ∧ day ≤ daysIn year month then some rest else none

def time? (text : List Char) : Option (List Char) := do
  let (hour, rest) ← fixed? 2 text
  let (minute, rest) ← fixed? 2 (← after? ':' rest)
  let (second, rest) ← fixed? 2 (← after? ':' rest)
  if 23 < hour ∨ 59 < minute ∨ 60 < second then none
  match rest with
  | '.' :: fraction =>
    if fraction.head?.any Char.isDigit then some (fraction.dropWhile Char.isDigit) else none
  | rest => some rest

/-- What follows an offset from universal time, if there is one. -/
def offset? : List Char → Option (List Char)
  | 'Z' :: rest | 'z' :: rest => some rest
  | '+' :: rest | '-' :: rest => do
    let (hour, rest) ← fixed? 2 rest
    let (minute, rest) ← fixed? 2 (← after? ':' rest)
    if hour ≤ 23 ∧ minute ≤ 59 then some rest else none
  | rest => some rest

/-- Whether a text is a date, a time, or both with or without an offset. -/
def isDateTime (text : List Char) : Bool :=
  match date? text with
  | some [] => true
  | some (delimiter :: rest) =>
    (delimiter == 'T' || delimiter == 't' || delimiter == ' ') && (time? rest).bind offset? == some []
  | none => time? text == some []

def isScalarChar (c : Char) : Bool := c.isAlphanum || c == '+' || c == '-' || c == '_' || c == '.' || c == ':'

/-- The unquoted text at the start; a date reaches over one blank to a time. -/
def split (text : List Char) : List Char × List Char :=
  let (token, rest) := text.span isScalarChar
  match rest with
  | ' ' :: digit :: _ =>
    if date? token == some [] && digit.isDigit then
      let (time, rest) := (rest.drop 1).span isScalarChar
      (token ++ ' ' :: time, rest)
    else (token, rest)
  | _ => (token, rest)

def value? (text : List Char) : Option Toml :=
  if text = "true".toList then some (bool true)
  else if text = "false".toList then some (bool false)
  else if isInt text || isFloat text then some number
  else if isDateTime text then some dateTime
  else none

end Telemetry.Toml.Scalar
