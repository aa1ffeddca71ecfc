import Telemetry.Toml.Quoted
import Telemetry.Toml.Scalar

/-!
# Reading TOML documents

`parse?` reads a document to its root table. No key is given a value twice, no table is named by two headers, and
neither inline tables nor plain arrays grow once they are written. Keys of too many parts and values nested too deep
are refused.
-/

namespace Telemetry.Toml

/-! ## Tables under construction -/

/-- Changes the table at a path with `change`. Tables on the way that do not exist yet are made, of an array of tables
the last one is taken. A path of a dotted key passes through no table that has a header. -/
def alter (viaDots : Bool) (change : Origin → Entries → Option Entries) :
    List String → Origin → Entries → Option Entries
  | [], origin, entries => change origin entries
  | key :: path, _, entries =>
    match entries.lookup key with
    | none =>
      let origin := if viaDots then Origin.dotted else .implied
      (alter viaDots change path origin []).map fun inner => put key (table origin inner) entries
    | some (table origin inner) =>
      if origin = .inline ∨ (viaDots ∧ origin = .header) then none
      else (alter viaDots change path origin inner).map fun inner => put key (table origin inner) entries
    | some (array true items) =>
      match items.getLast? with
      | some (table origin inner) =>
        (alter viaDots change path origin inner).map fun inner =>
          put key (array true (items.dropLast ++ [table origin inner])) entries
      | _ => none
    | _ => none

/-- Gives a key without a value its value. -/
def define (key : String) (value : Toml) (entries : Entries) : Option Entries :=
  if (entries.lookup key).isSome then none else some (put key value entries)

/-- Gives the key at the end of a dotted path its value. -/
def assign (path : List String) (value : Toml) (origin : Origin) (entries : Entries) : Option Entries :=
  match path.getLast? with
  | none => none
  | some key =>
    let tables := path.dropLast
    alter true (fun reached inner => if tables ≠ [] ∧ reached ≠ .dotted then none else define key value inner) tables
      origin entries

def openTable (path : List String) (root : Entries) : Option Entries :=
  match path.getLast? with
  | none => none
  | some key =>
    alter false (fun _ entries => match entries.lookup key with
      | none => some (put key (table .header []) entries)
      | some (table .implied inner) => some (put key (table .header inner) entries)
      | _ => none) path.dropLast .header root

/-- Appends a table to the array that a header names. -/
def openItem (path : List String) (root : Entries) : Option Entries :=
  match path.getLast? with
  | none => none
  | some key =>
    alter false (fun _ entries => match entries.lookup key with
      | none => some (put key (array true [table .header []]) entries)
      | some (array true items) => some (put key (array true (items ++ [table .header []])) entries)
      | _ => none) path.dropLast .header root

/-- The parts of a key, and the arrays and inline tables in one another, number less than this. -/
def nestingLimit : Nat := 80

/-! ## Keys -/

def skipBlanks (text : List Char) : List Char := text.dropWhile fun c => c == ' ' || c == '\t'

def simpleKey? (text : List Char) : Option (String × List Char) :=
  match text.span fun c => c.isAlphanum || c == '_' || c == '-' with
  | ([], _) => Quoted.oneLine? text
  | (bare, rest) => some (String.ofList bare, rest)

/-- Parts of a key with dots between them. The text behind them starts without blanks. -/
def keyParts? : Nat → List Char → Option (List String × List Char)
  | 0, _ => none
  | fuel + 1, text => do
    let (part, rest) ← simpleKey? (skipBlanks text)
    match skipBlanks rest with
    | '.' :: rest =>
      let (parts, rest) ← keyParts? fuel rest
      return (part :: parts, rest)
    | rest => return ([part], rest)

def key? (text : List Char) : Option (List String × List Char) :=
  (keyParts? (text.length + 1) text).filter fun (parts, _) => parts.length < nestingLimit

/-! ## Values -/

/-- What follows a comment; the characters in it are those of strings. -/
def skipComment : List Char → Option (List Char)
  | '#' :: rest =>
    let rest := rest.dropWhile Quoted.isPlain
    if rest = [] ∨ (Quoted.lineBreak? rest).isSome then some rest else none
  | rest => some rest

/-- The text without the blanks, line breaks and comments before it. -/
def skipLines : Nat → List Char → Option (List Char)
  | 0, _ => none
  | fuel + 1, text => do
    let rest ← skipComment (skipBlanks text)
    match Quoted.lineBreak? rest with
    | some rest => skipLines fuel rest
    | none => return rest

mutual

/-- A value at the start of a text, within `level` arrays and inline tables. Each step consumes a character, so the
length of the text is fuel enough. -/
def value? : Nat → Nat → List Char → Option (Toml × List Char)
  | 0, _, _ => none
  | fuel + 1, level, text =>
    match text with
    | [] => none
    | c :: rest =>
      if c = '"' ∨ c = '\'' then (Quoted.string? text).map fun (s, after) => (string s, after)
      else if c = '[' ∨ c = '\x7b' then
        if nestingLimit ≤ level + 1 then none
        else if c = '[' then (items? fuel (level + 1) rest).map fun (items, after) => (array false items, after)
        else
          match skipBlanks rest with
          | '\x7d' :: after => some (table .inline [], after)
          | rest => (entries? fuel (level + 1) [] rest).map fun (entries, after) => (table .inline entries, after)
      else
        let (token, rest) := Scalar.split text
        (Scalar.value? token).map fun v => (v, rest)

/-- The items of an array up to its end; a comma may stand behind the last. -/
def items? : Nat → Nat → List Char → Option (List Toml × List Char)
  | 0, _, _ => none
  | fuel + 1, level, text => do
    let rest ← skipLines (text.length + 1) text
    match rest with
    | ']' :: after => return ([], after)
    | rest =>
      let (item, rest) ← value? fuel level rest
      let rest ← skipLines (rest.length + 1) rest
      match rest with
      | ']' :: after => return ([item], after)
      | ',' :: rest =>
        let (items, after) ← items? fuel level rest
        return (item :: items, after)
      | _ => none

/-- The entries of an inline table up to its end, behind those read already. -/
def entries? : Nat → Nat → Entries → List Char → Option (Entries × List Char)
  | 0, _, _, _ => none
  | fuel + 1, level, before, text => do
    let (path, rest) ← key? text
    let (value, rest) ← value? fuel level (skipBlanks (← Scalar.after? '=' rest))
    let entries ← assign path value .inline before
    match skipBlanks rest with
    | '\x7d' :: after => return (entries, after)
    | ',' :: rest => entries? fuel level entries rest
    | _ => none

end

/-! ## Documents -/

/-- A document as far as it is read: its root, and the path of the last header. -/
structure Document where
  root : Entries
  header : List String

def header? (text : List Char) : Option (List String × List Char) := do
  let (path, rest) ← key? text
  return (path, ← Scalar.after? ']' rest)

/-- A header, or a key with its value. -/
def expression? (document : Document) (text : List Char) : Option (Document × List Char) :=
  match text with
  | '[' :: '[' :: rest => do
    let (path, rest) ← header? rest
    return (⟨← openItem path document.root, path⟩, ← Scalar.after? ']' rest)
  | '[' :: rest => do
    let (path, rest) ← header? rest
    return (⟨← openTable path document.root, path⟩, rest)
  | text => do
    let (path, rest) ← key? text
    let rest := skipBlanks (← Scalar.after? '=' rest)
    let (value, rest) ← value? (2 * rest.length + 1) 0 rest
    let root ← alter false (assign path value) document.header .header document.root
    return ({ document with root }, rest)

/-- The rest of a document; every expression ends its line. -/
def expressions? : Nat → Document → List Char → Option Document
  | 0, _, _ => none
  | fuel + 1, document, text => do
    match ← skipLines (text.length + 1) text with
    | [] => return document
    | text =>
      let (document, rest) ← expression? document text
      match ← skipComment (skipBlanks rest) with
      | [] => return document
      | rest => expressions? fuel document (← Quoted.lineBreak? rest)

/-- The root table of a document. A byte order mark before it does not count. -/
def parse? (text : String) : Option Toml :=
  let chars := match text.toList with
    | '\ufeff' :: rest => rest
    | chars => chars
  (expressions? (chars.length + 1) ⟨[], []⟩ chars).map fun document => table .header document.root

end Telemetry.Toml
