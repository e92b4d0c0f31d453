/-
  StyleCheck.Rule.ParenSpacing — blanks around the brackets of statement heads, and after commas
  and semicolons.

  There is a blank between the keyword and its bracket; within the brackets there are as many
  blanks at the beginning as at the end, one or none. A missing blank after a comma counts only if
  it is missing in the text with its comments too.
-/

import StyleCheck.Source.Lines

namespace StyleCheck.Rule

namespace ParenSpacing

open Pattern

def tightHead : Pattern := " " ++ group 1 (oneOf ["if(", "for(", "while(", "switch("])

/-- Group 1 is the keyword, groups 2 and 4 are the blanks inside, group 3 the first character. -/
def statementHead : Pattern :=
  edge ++ group 1 (oneOf ["if", "for", "while", "switch"]) ++ blanks ++ "(" ++ group 2 (many " ")
    ++ group 3 any ++ anything ++ some1 (noneOf " ") ++ group 4 (many " ") ++ ")" ++ blanks ++ "\x7b"
    ++ blanks ++ finish

def emptyLastPart : Pattern := edge ++ "for" ++ blanks ++ "(" ++ anything ++ "; )"

/-- The blanks inside differ, and not because the first or the last part of a head is empty. -/
def mismatch (line : Text) (m : Match) : Bool :=
  let left := (m.group 2).length
  let right := (m.group 4).length
  left != right
    && !((m.group 3 == [';'] && left == 1 + right) || (left == 0 && emptyLastPart.occursIn line))

def findings (s : Source) (n : Nat) : List Finding :=
  let line := s.elided n
  let said (message : String) (word : Text) : Finding :=
    ⟨n, .whitespaceParens, 5, message ++ String.ofList word⟩
  (match tightHead.search? line with
    | some m => [said "Missing space before ( in " (m.group 1)]
    | none => [])
    ++ match statementHead.search? line with
      | none => []
      | some m =>
        Finding.when (mismatch line m) (said "Mismatching spaces inside () in " (m.group 1))
          ++ Finding.when (1 < (m.group 2).length)
            (said "Should have zero or one spaces inside ( and ) in " (m.group 1))

end ParenSpacing

namespace CommaSpacing

open Pattern

def tightComma : Pattern := "," ++ one (.other (.union [.blank, .among ",".toList]))

def commaOperator : Pattern := edge ++ "operator" ++ blanks ++ "," ++ blanks ++ "("

def tightSemicolon : Pattern := ";" ++ one (.other (.union [.blank, .among "\x7d;\\)/".toList]))

def findings (s : Source) (n : Nat) : List Finding :=
  let line := s.elided n
  Finding.when
      (tightComma.occursIn (commaOperator.replaceAll "F(".toList line)
        && tightComma.occursIn (s.plain n))
      ⟨n, .whitespaceComma, 3, "Missing space after ,"⟩
    ++ Finding.when (tightSemicolon.occursIn line)
      ⟨n, .whitespaceSemicolon, 3, "Missing space after ;"⟩

end CommaSpacing

end StyleCheck.Rule
