/-
  StyleCheck.Rule.AltTokens — operators should be written as signs, not as words.
-/

import StyleCheck.Source.Directive
import StyleCheck.Source.Lines

namespace StyleCheck.Rule.AltTokens

open Pattern

/-- The words and the signs they stand for. -/
def signs : List (String × String) :=
  [("and", "&&"), ("bitor", "|"), ("or", "||"), ("xor", "^"), ("compl", "~"), ("bitand", "&"),
   ("and_eq", "&="), ("or_eq", "|="), ("xor_eq", "^="), ("not", "!"), ("not_eq", "!=")]

def wordOperator : Pattern :=
  anyOf " =()" ++ group 1 (oneOf (signs.map (·.1))) ++ ahead (anyOf " (" ||| finish)

def findings (s : Source) (n : Nat) : List Finding :=
  let line := s.elided n
  if Directive.isDirective line || Text.holds line "/*".toList || Text.holds line "*/".toList then []
  else
    (wordOperator.occurrences line).map fun m =>
      let found := String.ofList (m.group 1)
      ⟨n, .readabilityAltTokens, 2,
        "Use operator " ++ (signs.lookup found).getD "" ++ " instead of " ++ found⟩

end StyleCheck.Rule.AltTokens
