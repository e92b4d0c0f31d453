/-
  StyleCheck.Rule.Printf — functions that write beyond the end of a buffer.
-/

import StyleCheck.Source.Lines

namespace StyleCheck.Rule.Printf

open Pattern

/-- Group 1 is the buffer, group 2 its length, if that is a number. -/
def literalLength : Pattern :=
  "snprintf" ++ blanks ++ "(" ++ group 1 (many (noneOf ",")) ++ "," ++ blanks
    ++ group 2 (many (one (.range '0' '9'))) ++ blanks ++ ","

def unbounded : Pattern := edge ++ "sprintf" ++ blanks ++ "("

def copying : Pattern := edge ++ group 1 (oneOf ["strcpy", "strcat"]) ++ blanks ++ "("

def findings (s : Source) (n : Nat) : List Finding :=
  let line := s.elided n
  (match literalLength.search? line with
    | none => []
    | some m =>
      Finding.when (m.group 2 != ['0'])
        ⟨n, .runtimePrintf, 3,
          "If you can, use sizeof(" ++ String.ofList (m.group 1) ++ ") instead of " ++
            String.ofList (m.group 2) ++ " as the 2nd arg to snprintf."⟩)
    ++ Finding.when (unbounded.occursIn line)
      ⟨n, .runtimePrintf, 5, "Never use sprintf. Use snprintf instead."⟩
    ++ match copying.search? line with
      | none => []
      | some m =>
        [⟨n, .runtimePrintf, 4,
          "Almost always, snprintf is better than " ++ String.ofList (m.group 1)⟩]

end StyleCheck.Rule.Printf
