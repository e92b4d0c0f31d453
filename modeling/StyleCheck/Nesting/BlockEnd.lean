/-
  StyleCheck.Nesting.BlockEnd — what is asked of the end of a block.

  A class that disallows copying says so at its end, and its closing bracket is aligned with its
  beginning. A namespace of ten lines or more, or one that already has a comment at its end, ends
  in a comment that names it.
-/

import StyleCheck.Nesting.Block

namespace StyleCheck.BlockEnd

open Pattern

def disallowing (className : Text) : Pattern :=
  edge ++ group 1 ("DISALLOW_" ++ oneOf ["COPY_AND_ASSIGN", "IMPLICIT_CONSTRUCTORS"])
    ++ literal ('(' :: className ++ [')'])

/-- Looks for the disallowing macro on the `count` lines above line `line`, the nearest first;
`seen` tells whether a line with code has been passed. -/
def misplacedMacro (s : Source) (className : Text) (line : Nat) (seen : Bool) :
    (count : Nat) → List Finding
  | 0 => []
  | count + 1 =>
    let n := line - 1
    match (disallowing className).search? (s.elided n) with
    | some m =>
      Finding.when seen
        ⟨n, .readabilityConstructors, 3,
          String.ofList (m.group 1) ++ " should be the last thing in the class"⟩
    | none => misplacedMacro s className n (seen || !Text.allBlank (s.elided n)) count

/-- A line whose first character other than a space is a closing bracket, and the number of spaces
before it. -/
def closingIndent? (line : Text) : Option Nat :=
  match line.dropWhile (· == ' ') with
  | '}' :: _ => some (line.takeWhile (· == ' ')).length
  | _ => none

def ofClass (s : Source) (b : Block) (c : ClassHead) (line : Nat) : List Finding :=
  misplacedMacro s c.name line false (line - 1 - b.start) ++
    match closingIndent? (s.elided line) with
    | some indent =>
      Finding.when (indent != c.indent)
        ⟨line, .whitespaceIndent, 3,
          "Closing brace should be aligned with beginning of " ++ c.title⟩
    | none => []

/-- A closing bracket and the beginning of a comment. -/
def commented : Pattern :=
  start ++ blanks ++ "\x7d" ++ many ";" ++ blanks ++ group 1 ("/" ++ anyOf "/*") ++ anything ++ edge

def terminator : Pattern := many (one (.union [.blank, .among "*/.\\".toList])) ++ finish

def mentionsNamespace : Pattern := commented ++ "namespace" ++ edge

def namesNamespace (name : Text) : Pattern :=
  commented ++ "namespace" ++ some1 blank ++ literal name ++ terminator

def namesAnonymous : Pattern := commented ++ "namespace" ++ terminator

def saysAnonymous : Pattern :=
  start ++ blanks ++ "\x7d" ++ anything ++ edge
    ++ group 1 (oneOf ["namespace anonymous", "anonymous namespace"]) ++ edge

def ofNamespace (s : Source) (b : Block) (name : Text) (line : Nat) : List Finding :=
  let text := s.raw line
  let missing (message : String) : List Finding := [⟨line, .readabilityNamespace, 5, message⟩]
  if line < b.start + 10 && !mentionsNamespace.opens text then []
  else if !name.isEmpty then
    if (namesNamespace name).opens text then []
    else
      missing ("Namespace should be terminated with \"// namespace " ++ String.ofList name ++ "\"")
  else if namesAnonymous.opens text then []
  else if saysAnonymous.opens text then
    missing ("Anonymous namespace should be terminated with \"// namespace\"" ++
      " or \"// anonymous namespace\"")
  else missing "Anonymous namespace should be terminated with \"// namespace\""

/-- What is to be said when the block `b` ends on line `line`. -/
def findings (s : Source) (b : Block) (line : Nat) : List Finding :=
  match b.kind with
  | .type head => ofClass s b head line
  | .space name => ofNamespace s b name line
  | .plain | .linkage => []

end StyleCheck.BlockEnd
