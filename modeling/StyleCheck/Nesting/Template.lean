/-
  StyleCheck.Nesting.Template — is a place within a template argument list?

  From the place on, the first of the marks below decides. A curly bracket or a semicolon comes
  only after the list, a closing angle bracket, an equals sign, a square bracket or a point only
  within one. An opening angle bracket is skipped together with all up to the bracket that closes
  it; if none does, the place is taken to be outside.

  This goes in rounds, one for each bracket that is skipped and for each line without a mark (`round`). Every
  round goes forward in the file, so the number of characters and line ends bounds them.
-/

import StyleCheck.Bracket.Match

namespace StyleCheck.Template

def isMark (c : Char) : Bool := "\x7b\x7d;=[].<>".toList.contains c

/-- The number of characters of all lines, line ends included. -/
def extent (s : Source) : Nat := s.lines.foldl (fun n line => n + line.elided.length + 1) 0

/-- What the rest of a line shows: no mark, one that settles the question, or an opening angle bracket
behind some characters that are none. -/
inductive Look where
  | nothing
  | settled (answer : Bool)
  | angle (skipped : Nat)
  deriving DecidableEq, Repr

def look (rest : Text) : Look :=
  match rest.dropWhile fun c => !isMark c with
  | [] => .nothing
  | mark :: _ =>
    if mark == '{' || mark == '}' || mark == ';' then .settled false
    else if mark == '<' then .angle (rest.takeWhile fun c => !isMark c).length
    else .settled true

/-- What is seen from a place on; beyond the file the question is settled. -/
def seen (s : Source) (p : Place) : Look :=
  if p.line < s.size then look ((s.elided p.line).drop p.column) else .settled false

/-- The place from which a round at `p` looks for the closing bracket, if it does so. -/
def asked? (s : Source) (p : Place) : Option Place :=
  match seen s p with
  | .angle skipped => some ⟨p.line, p.column + skipped⟩
  | _ => none

/-- A round at `p` goes on at another place, or it settles the question. -/
def round (s : Source) (p : Place) : Place ⊕ Bool :=
  match asked? s p with
  | some a => (Bracket.findClose s a.line a.column).place.elim (.inr false) .inl
  | none =>
    match seen s p with
    | .settled answer => .inr answer
    | _ => .inl ⟨p.line + 1, 0⟩

def insideFrom (s : Source) : (steps : Nat) → Place → Bool
  | 0, _ => false
  | steps + 1, p =>
    match round s p with
    | .inl q => insideFrom s steps q
    | .inr answer => answer

/-- Is the place after a name, given by its line and column, within a template argument list? -/
def inside (s : Source) (line column : Nat) : Bool := insideFrom s (extent s + 1) ⟨line, column⟩

end StyleCheck.Template
