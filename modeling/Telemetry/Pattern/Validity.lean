import Telemetry.Pattern.Parser

/-!
# Patterns that can be used

A pattern matches texts by characters or, where a switch says so, by bytes. By characters, nothing can be used that
needs to know about letters beyond ASCII: no shorthands, no edges of words, nothing that ignores case. By bytes, nothing
can be used that might match a part of a character.
-/

namespace Telemetry.Pattern

structure Switches where
  ignoreCase : Bool
  byChars : Bool
deriving DecidableEq, Repr

/-- The switches behind letters that set them. -/
def Switches.apply (letters : List Char) (s : Switches) : Switches :=
  ⟨isOn 'i' letters s.ignoreCase, isOn 'u' letters s.byChars⟩

def Atom.isUsable (s : Switches) : Atom → Bool
  | literal l => if s.byChars then !s.ignoreCase else !l.isByte || l.char.toNat < 0x80
  | anyChar => s.byChars
  | textEdge => true
  | wordEdge => !s.byChars
  | shorthand negated => !s.byChars && !negated

mutual

def CharSet.isUsable (s : Switches) : CharSet → Bool
  | .literal l => if s.byChars then !s.ignoreCase else l.char.toNat < 0x80
  | .range first last =>
    if s.byChars then !s.ignoreCase else first.char.toNat < 0x80 && last.char.toNat < 0x80
  | .shorthand negated => !s.byChars && !negated
  | .named negated => if s.byChars then !s.ignoreCase else !negated
  | .union members => CharSet.areUsable s members
  | .operation left right => left.isUsable s && right.isUsable s
  | .bracket negated body => (s.byChars || !negated) && body.isUsable s

def CharSet.areUsable (s : Switches) : List CharSet → Bool
  | [] => true
  | member :: members => member.isUsable s && CharSet.areUsable s members

end

mutual

/-- The switches behind a pattern, if all of it can be used under those before it. -/
def check? (s : Switches) : Pattern → Option Switches
  | atom a => if a.isUsable s then some s else none
  | set c => if c.isUsable s then some s else none
  | switches letters => some (s.apply letters)
  | repetition body => check? s body
  | group letters body => (check? (s.apply letters) body).map fun _ => s
  | sequence parts => checkAll? s parts
  | branches alternatives => checkAll? s alternatives

/-- The switches behind patterns that stand one behind the other. -/
def checkAll? (s : Switches) : List Pattern → Option Switches
  | [] => some s
  | p :: parts => (check? s p).bind fun s => checkAll? s parts

end

def depthLimit : Nat := 250

def isPattern (text : List Char) : Bool :=
  (parse? text).any fun p => p.depth ≤ depthLimit && (check? ⟨false, true⟩ p).isSome

end Telemetry.Pattern
