/-
  StyleCheck.Pattern.Basic — patterns, and how they are written.

  A pattern is data. It is matched by ordered choice: a pattern offers the ways it can match one
  after another, and the first one after which all that follows matches too is taken. `alt`
  offers its left side first, `many` and `upTo` offer as much as possible first, `few` and `fewTo`
  as little as possible. `once` offers a single way.
-/

import StyleCheck.Pattern.CharSet

namespace StyleCheck

inductive Pattern where
  | empty
  | one (s : CharSet)
  | seq (p q : Pattern)
  | alt (p q : Pattern)
  | many (p : Pattern)
  | few (p : Pattern)
  /-- Exactly `n` times. -/
  | times (n : Nat) (p : Pattern)
  /-- At most `n` times, more first. -/
  | upTo (n : Nat) (p : Pattern)
  /-- At most `n` times, fewer first. -/
  | fewTo (n : Nat) (p : Pattern)
  /-- The first way in which `p` matches, whatever follows. -/
  | once (p : Pattern)
  /-- Matches as `p` does, and remembers what was matched under the number `n`. -/
  | group (n : Nat) (p : Pattern)
  /-- The text last remembered under the number `n`, once more. -/
  | again (n : Nat)
  /-- A place with a word character on exactly one side. -/
  | edge
  | start
  /-- The end of the text, or the place before a line feed that ends it. -/
  | finish
  | lineStart
  | lineEnd
  /-- A place at which `p` matches; nothing is consumed. -/
  | ahead (p : Pattern)
  | notAhead (p : Pattern)
  deriving Repr

namespace Pattern

/-- The characters of `s` one after another. -/
def literal : Text → Pattern
  | [] => empty
  | [c] => one (.among [c])
  | c :: cs => seq (one (.among [c])) (literal cs)

instance : Coe String Pattern := ⟨fun s => literal s.toList⟩

instance : Append Pattern := ⟨seq⟩

instance : OrOp Pattern := ⟨alt⟩

def choice : List Pattern → Pattern
  | [] => notAhead empty
  | [p] => p
  | p :: rest => alt p (choice rest)

/-- One of the given words, the earlier ones first. -/
def oneOf (words : List String) : Pattern := choice (words.map fun s => literal s.toList)

def anyOf (chars : String) : Pattern := one (.among chars.toList)

def noneOf (chars : String) : Pattern := one (.other (.among chars.toList))

def opt (p : Pattern) : Pattern := alt p empty

def some1 (p : Pattern) : Pattern := seq p (many p)

def any : Pattern := one .any

def word : Pattern := one .word

def blank : Pattern := one .blank

def decimal : Pattern := one .decimal

def notWord : Pattern := one (.other .word)

def notBlank : Pattern := one (.other .blank)

def blanks : Pattern := many blank

/-- Anything up to the end of the line. -/
def anything : Pattern := many any

end Pattern

end StyleCheck
