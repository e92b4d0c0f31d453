/-
  StyleCheck.Rule.Inheritance — specifiers of member functions that say the same thing twice.

  A function that overrides another one is virtual, so `virtual` says nothing new beside
  `override` or `final`, nor does `override` beside `final`. The specifiers stand after the
  parameter list, which may end some lines below.
-/

import StyleCheck.Bracket.Match

namespace StyleCheck.Rule

open Pattern in
/-- Groups 1 and 3 are what stands before and after the keyword. -/
def virtualKeyword : Pattern :=
  start ++ group 1 anything ++ group 2 (edge ++ "virtual" ++ edge) ++ group 3 anything ++ finish

open Pattern in
def accessBefore : Pattern :=
  edge ++ group 1 (oneOf ["public", "protected", "private"]) ++ some1 blank ++ finish

open Pattern in
def accessAfter : Pattern :=
  start ++ some1 blank ++ group 1 (oneOf ["public", "protected", "private"]) ++ edge

open Pattern in
/-- A colon amid a line that is not part of a scope operator. -/
def innerColon : Pattern :=
  start ++ anything ++ noneOf ":" ++ ":" ++ noneOf ":" ++ anything ++ finish

open Pattern in
def overrideOrFinal : Pattern := edge ++ group 1 (oneOf ["override", "final"]) ++ edge

open Pattern in
/-- The line ends in a character that is no part of a word. -/
def endsOutsideWord : Pattern := notWord ++ blanks ++ finish

/-- The end of the first parameter list that begins on one of `count` lines from `line` on, on
the first one at or after column `column`. -/
def parameterListEnd? (s : Source) (line column : Nat) : (count : Nat) → Option Place
  | 0 => none
  | count + 1 =>
    let text := (s.elided line).drop column
    match text.findIdx? (· == '(') with
    | some i => (Bracket.findClose s line (column + i)).place
    | none => parameterListEnd? s (line + 1) 0 count

/-- Looks for specifiers on `count` lines from a place on, and says on line `n` that they make
`virtual` redundant. -/
def specifiersFrom (s : Source) (n line column : Nat) : (count : Nat) → List Finding
  | 0 => []
  | count + 1 =>
    let text := (s.elided line).drop column
    let here :=
      match overrideOrFinal.search? text with
      | none => []
      | some m =>
        [⟨n, .readabilityInheritance, 4,
          "\"virtual\" is redundant since function is already declared as \"" ++
            String.ofList (m.group 1) ++ "\""⟩]
    if endsOutsideWord.occursIn text then here else here ++ specifiersFrom s n (line + 1) 0 count

def redundantVirtual (s : Source) (n : Nat) : List Finding :=
  let text := s.elided n
  match virtualKeyword.match? text with
  | none => []
  | some m =>
    if accessBefore.occursIn (m.group 1) || accessAfter.opens (m.group 3) || innerColon.opens text
    then []
    else
      match parameterListEnd? s n "virtual".length (min 3 (s.size - n)) with
      | none => []
      | some p => specifiersFrom s n p.line p.column (min 3 (s.size - p.line))

open Pattern in
def overrideWord : Pattern := edge ++ "override" ++ edge

open Pattern in
def finalWord : Pattern := edge ++ "final" ++ edge

def redundantOverride (s : Source) (n : Nat) : List Finding :=
  let text := s.elided n
  let fragment? : Option Text :=
    match Text.locateLast? ')' text with
    | some i => some (text.drop i)
    | none => if 1 < n && (s.elided (n - 1)).contains ')' then some text else none
  match fragment? with
  | none => []
  | some fragment =>
    Finding.when (overrideWord.occursIn fragment && finalWord.occursIn fragment)
      ⟨n, .readabilityInheritance, 4,
        "\"override\" is redundant since function is already declared as \"final\""⟩

end StyleCheck.Rule
