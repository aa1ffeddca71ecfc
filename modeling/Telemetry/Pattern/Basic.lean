/-!
# Patterns

Regular expressions that field values are matched against, as far as it matters whether one can be used: the parts it
is made of and how deep they are nested, not the texts that it matches. There is no part for a repetition by counts or
for a property of characters, because none can be used.
-/

namespace Telemetry

/-- A character of a pattern. A byte is one that two hexadecimal digits give. -/
structure Pattern.Literal where
  char : Char
  isByte : Bool
deriving DecidableEq, Repr

/-- The smallest parts of a pattern. -/
inductive Pattern.Atom
  | literal (l : Literal)
  | anyChar
  /-- The start or the end of a text or of a line. -/
  | textEdge
  /-- The start, the end or the inside of a word. -/
  | wordEdge
  /-- The digits, the blanks or the characters of words, or all others. -/
  | shorthand (negated : Bool)
deriving DecidableEq, Repr

/-- A set of characters in brackets, and what stands in them. -/
inductive Pattern.CharSet
  | literal (l : Literal)
  | range (first last : Literal)
  | shorthand (negated : Bool)
  | named (negated : Bool)
  | union (members : List CharSet)
  /-- What is in both, only in the left or in one of two sets. -/
  | operation (left right : CharSet)
  | bracket (negated : Bool) (body : CharSet)

/-- A regular expression. Switches are given by their letters, those to turn off behind a hyphen; they hold up to the
end of the group that they stand in. -/
inductive Pattern
  | atom (a : Pattern.Atom)
  | set (s : Pattern.CharSet)
  | switches (letters : List Char)
  | repetition (body : Pattern)
  | group (letters : List Char) (body : Pattern)
  | sequence (parts : List Pattern)
  | branches (alternatives : List Pattern)

namespace Pattern

/-! ## One part or many -/

/-- The union of members; a single one stands for itself. -/
def CharSet.ofMembers : List CharSet → CharSet
  | [s] => s
  | members => .union members

/-- Parts one behind the other; a single one stands for itself. -/
def ofParts : List Pattern → Pattern
  | [p] => p
  | parts => sequence parts

/-- Patterns of which one has to match; a single one stands for itself. -/
def ofBranches : List Pattern → Pattern
  | [p] => p
  | alternatives => branches alternatives

/-! ## Depth -/

mutual

/-- How many brackets, unions and operations stand in one another. -/
def CharSet.depth : CharSet → Nat
  | .union [] => 0
  | .union (s :: members) => max s.depth (CharSet.maxDepth members) + 1
  | .operation left right => max left.depth right.depth + 1
  | .bracket _ body => body.depth + 1
  | _ => 0

def CharSet.maxDepth : List CharSet → Nat
  | [] => 0
  | s :: members => max s.depth (CharSet.maxDepth members)

end

mutual

/-- How many sets, groups, repetitions, sequences and branchings stand in one another. -/
def depth : Pattern → Nat
  | atom _ | switches _ | sequence [] => 0
  | set s => s.depth
  | repetition body | group _ body => depth body + 1
  | sequence (p :: parts) => max (depth p) (maxDepth parts) + 1
  | branches alternatives => maxDepth alternatives + 1

def maxDepth : List Pattern → Nat
  | [] => 0
  | p :: parts => max (depth p) (maxDepth parts)

end

end Pattern

end Telemetry
