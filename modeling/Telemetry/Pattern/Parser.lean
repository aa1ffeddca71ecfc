import Telemetry.Pattern.Basic
import Telemetry.Text.Alphanumeric
import Telemetry.Text.Blank
import Telemetry.Text.Hex

/-!
# Reading patterns

`parse?` reads a text to a pattern. In verbose mode, which a switch turns on, blanks and comments between the parts do
not count.
-/

namespace Telemetry.Pattern

/-! ## Blanks and comments -/

/-- The text without the blanks and comments before it, from within a comment or not. -/
def skipBlanks : Bool → List Char → List Char
  | _, [] => []
  | true, c :: rest => skipBlanks (c != '\n') rest
  | false, c :: rest =>
    if Text.isBlank c then skipBlanks false rest else if c = '#' then skipBlanks true rest else c :: rest

/-- The text without what does not count before it. -/
def skip (verbose : Bool) (text : List Char) : List Char := if verbose then skipBlanks false text else text

/-- The character that decides about a hyphen in a set. In verbose mode it is the first behind blanks, or the first
within a comment behind them. -/
def decider? (verbose : Bool) (text : List Char) : Option Char :=
  if verbose then
    match text.dropWhile Text.isBlank with
    | '#' :: rest => (rest.dropWhile Text.isBlank).head?
    | rest => rest.head?
  else text.head?

/-! ## Escapes -/

def digits? (verbose : Bool) : Nat → List Char → Option (List Char × List Char)
  | 0, text => some ([], text)
  | n + 1, text =>
    match skip verbose text with
    | [] => none
    | c :: rest =>
      if (Text.Hex.digit? c).isSome then (digits? verbose n rest).map fun (cs, after) => (c :: cs, after) else none

/-- The character that so many hexadecimal digits give; of two digits it is a byte. -/
def byNumber? (verbose : Bool) (count : Nat) (text : List Char) : Option (Atom × List Char) := do
  let (digits, rest) ← digits? verbose count text
  return (.literal ⟨← Text.Hex.scalar? digits, count == 2⟩, rest)

/-- The part that an escape stands for, from behind its backslash on. A letter or digit without a meaning may not be
escaped. -/
def escape? (verbose : Bool) : List Char → Option (Atom × List Char)
  | [] => none
  | c :: rest =>
    match c with
    | 'x' => byNumber? verbose 2 rest
    | 'u' => byNumber? verbose 4 rest
    | 'U' => byNumber? verbose 8 rest
    | 'd' | 's' | 'w' => some (.shorthand false, rest)
    | 'D' | 'S' | 'W' => some (.shorthand true, rest)
    | 'A' | 'z' => some (.textEdge, rest)
    | 'b' | 'B' | '<' | '>' => some (.wordEdge, rest)
    | 'a' => some (.literal ⟨'\x07', false⟩, rest)
    | 'f' => some (.literal ⟨'\x0c', false⟩, rest)
    | 't' => some (.literal ⟨'\t', false⟩, rest)
    | 'n' => some (.literal ⟨'\n', false⟩, rest)
    | 'r' => some (.literal ⟨'\r', false⟩, rest)
    | 'v' => some (.literal ⟨'\x0b', false⟩, rest)
    | c => if c.toNat < 0x80 && !c.isAlphanum then some (.literal ⟨c, false⟩, rest) else none

/-! ## Sets -/

def setNames : List String :=
  ["alnum", "alpha", "ascii", "blank", "cntrl", "digit", "graph", "lower", "print", "punct", "space", "upper", "word",
    "xdigit"]

/-- A set by its name, from behind its opening bracket on. -/
def named? : List Char → Option (CharSet × List Char)
  | ':' :: rest =>
    let (negated, rest) := match rest with
      | '^' :: rest => (true, rest)
      | rest => (false, rest)
    match rest.span (· != ':') with
    | (name, ':' :: ']' :: rest) =>
      if setNames.contains (String.ofList name) then some (.named negated, rest) else none
    | _ => none
  | _ => none

/-- A character or an escape in a set. -/
def element? (verbose : Bool) : List Char → Option (Atom × List Char)
  | [] => none
  | '\\' :: rest => escape? verbose rest
  | c :: rest => some (.literal ⟨c, false⟩, rest)

/-- What a part means in a set. -/
def Atom.toCharSet? : Atom → Option CharSet
  | literal l => some (.literal l)
  | shorthand negated => some (.shorthand negated)
  | _ => none

/-- A member of a set: a range, or a character or an escape. A hyphen makes no range before another one or before the
closing bracket. -/
def member? (verbose : Bool) (text : List Char) : Option (CharSet × List Char) := do
  let (first, rest) ← element? verbose text
  match skip verbose rest with
  | '-' :: behind =>
    if decider? verbose behind = some ']' ∨ decider? verbose behind = some '-' then
      return (← first.toCharSet?, '-' :: behind)
    else
      match first, ← element? verbose (skip verbose behind) with
      | .literal a, (.literal b, rest) => if a.char ≤ b.char then some (.range a b, rest) else none
      | _, _ => none
  | rest => return (← first.toCharSet?, rest)

/-- A set under construction, to the right of an operation or not. -/
def CharSet.join (left : Option CharSet) (members : List CharSet) : CharSet :=
  match left with
  | none => ofMembers members.reverse
  | some left => .operation left (ofMembers members.reverse)

mutual

/-- A set from behind its opening bracket on. Each step but the first of a set consumes a character. -/
def set? : Nat → Bool → List Char → Option (CharSet × List Char)
  | 0, _, _ => none
  | fuel + 1, verbose, text =>
    match skip verbose text with
    | '^' :: rest => (members? fuel verbose true none [] rest).map fun (body, after) => (.bracket true body, after)
    | rest => (members? fuel verbose true none [] rest).map fun (body, after) => (.bracket false body, after)

/-- The members of a set up to its end, behind those read already. Hyphens that open a set stand for themselves, and so
does a bracket that would close it at once. -/
def members? : Nat → Bool → Bool → Option CharSet → List CharSet → List Char → Option (CharSet × List Char)
  | 0, _, _, _, _, _ => none
  | fuel + 1, verbose, opening, left, members, text =>
    match skip verbose text with
    | [] => none
    | c :: rest =>
      if opening ∧ (c = '-' ∨ (c = ']' ∧ members.isEmpty)) then
        members? fuel verbose (c = '-') left (.literal ⟨c, false⟩ :: members) rest
      else if c = ']' then some (.join left members, rest)
      else if c = '[' then
        match named? rest with
        | some (s, rest) => members? fuel verbose false left (s :: members) rest
        | none => do
          let (s, rest) ← set? fuel verbose rest
          members? fuel verbose false left (s :: members) rest
      else if (c = '&' ∨ c = '-' ∨ c = '~') ∧ rest.head? = some c then
        members? fuel verbose false (some (.join left members)) [] rest.tail
      else do
        let (s, rest) ← member? verbose (c :: rest)
        members? fuel verbose false left (s :: members) rest

end

/-! ## Groups -/

/-- Whether a switch is on behind the letters that set switches. -/
def isOn (letter : Char) (letters : List Char) (before : Bool) : Bool :=
  if letters.contains letter then (letters.takeWhile (· != '-')).contains letter else before

/-- The letters of switches, the character that ends them, and what follows it. No letter stands twice, and a hyphen is
followed by a letter. -/
def switches? (text : List Char) : Option (List Char × Char × List Char) :=
  match text.span fun c => c != ':' && c != ')' with
  | (_, []) => none
  | (letters, close :: rest) =>
    if letters.all ("imsUuRx-".toList.contains ·) ∧ letters.Nodup ∧ letters.getLast? ≠ some '-' then
      some (letters, close, rest)
    else none

def isGroupName : List Char → Bool
  | [] => false
  | c :: rest =>
    (c == '_' || Text.isAlphabetic c) && rest.all fun c => ['_', '.', '[', ']'].contains c || Text.isAlphanumeric c

/-- What is known at a place of a pattern: whether verbose mode is on, and the names of the groups before. -/
structure Scope where
  verbose : Bool
  names : List (List Char)

/-- What an opening parenthesis opens: switches that hold from there on, or a group with switches of its own. A group
name stands once. -/
def opening? (scope : Scope) (text : List Char) : Option (Bool × List Char × Scope × List Char) :=
  match skip scope.verbose text with
  | '?' :: 'P' :: '<' :: rest | '?' :: '<' :: rest =>
    match rest.span (· != '>') with
    | (name, '>' :: rest) =>
      if isGroupName name ∧ name ∉ scope.names then
        some (true, [], { scope with names := name :: scope.names }, rest)
      else none
    | _ => none
  | '?' :: rest =>
    match switches? rest with
    | some (letters, close, rest) =>
      if close = ')' ∧ letters = [] then none
      else some (close = ':', letters, { scope with verbose := isOn 'x' letters scope.verbose }, rest)
    | none => none
  | rest => some (true, [], scope, rest)

/-! ## Patterns -/

def isSwitches : Pattern → Bool
  | switches _ => true
  | _ => false

/-- A part that is neither a group nor a set nor an operator. -/
def atom? (verbose : Bool) : List Char → Option (Atom × List Char)
  | [] => none
  | '\\' :: rest => escape? verbose rest
  | '.' :: rest => some (.anyChar, rest)
  | '^' :: rest | '$' :: rest => some (.textEdge, rest)
  | c :: rest => some (.literal ⟨c, false⟩, rest)

mutual

/-- Parts up to the end of a branch, behind those read already. An opening brace that stands for no character would
count repetitions. -/
def parts? : Nat → Scope → List Pattern → List Char → Option (List Pattern × Scope × List Char)
  | 0, _, _, _ => none
  | fuel + 1, scope, before, text =>
    match skip scope.verbose text with
    | [] => some (before.reverse, scope, [])
    | c :: rest =>
      if c = '|' ∨ c = ')' then some (before.reverse, scope, c :: rest)
      else if c = '(' then do
        let (isGroup, letters, inner, rest) ← opening? scope rest
        if isGroup then
          match ← branches? fuel inner rest with
          | (alternatives, inner, ')' :: rest) =>
            parts? fuel ⟨scope.verbose, inner.names⟩ (group letters (ofBranches alternatives) :: before) rest
          | _ => none
        else parts? fuel inner (switches letters :: before) rest
      else if c = '[' then do
        let (s, rest) ← set? (2 * rest.length + 2) scope.verbose rest
        parts? fuel scope (set s :: before) rest
      else if c = '?' ∨ c = '*' ∨ c = '+' then
        match before with
        | [] => none
        | body :: before =>
          if body.isSwitches then none
          else parts? fuel scope (repetition body :: before) (if rest.head? = some '?' then rest.tail else rest)
      else if c = '\x7b' then none
      else do
        let (a, rest) ← atom? scope.verbose (c :: rest)
        parts? fuel scope (atom a :: before) rest

/-- The branches of a group or of the whole pattern. Each step but the first of a group consumes a character. -/
def branches? : Nat → Scope → List Char → Option (List Pattern × Scope × List Char)
  | 0, _, _ => none
  | fuel + 1, scope, text => do
    let (parts, scope, rest) ← parts? fuel scope [] text
    match rest with
    | '|' :: rest =>
      let (alternatives, scope, rest) ← branches? fuel scope rest
      return (ofParts parts :: alternatives, scope, rest)
    | rest => return ([ofParts parts], scope, rest)

end

def parse? (text : List Char) : Option Pattern :=
  match branches? (2 * text.length + 2) ⟨false, []⟩ text with
  | some (alternatives, _, []) => some (ofBranches alternatives)
  | _ => none

end Telemetry.Pattern
