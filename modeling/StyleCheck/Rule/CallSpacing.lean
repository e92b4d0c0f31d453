/-
  StyleCheck.Rule.CallSpacing — no blanks within or before the brackets of a call.

  In the head of a statement the rule looks only at what stands between its brackets. Lines with
  pointers to functions or arrays, and those with certain keywords, are too hard to tell from
  calls and left alone.
-/

import StyleCheck.Source.Lines

namespace StyleCheck.Rule.CallSpacing

open Pattern

/-- The heads of statements; group 1 is what stands between the brackets. -/
def heads : List Pattern :=
  [edge ++ "if" ++ blanks ++ "(" ++ group 1 anything ++ ")" ++ blanks ++ "\x7b",
   edge ++ "for" ++ blanks ++ "(" ++ group 1 anything ++ ")" ++ blanks ++ "\x7b",
   edge ++ "while" ++ blanks ++ "(" ++ group 1 anything ++ ")" ++ blanks ++ anyOf "\x7b;",
   edge ++ "switch" ++ blanks ++ "(" ++ group 1 anything ++ ")" ++ blanks ++ "\x7b"]

/-- The part of a line in which calls are looked for. -/
def subject (line : Text) : Text :=
  match heads.findSome? fun p => p.search? line with
  | some m => m.group 1
  | none => line

def keyword : Pattern :=
  edge ++ group 1 (oneOf ["if", "for", "while", "switch", "return", "new", "delete", "catch", "sizeof"])
    ++ edge

def functionPointer : Pattern :=
  " (" ++ some1 (noneOf ")") ++ ")(" ++ many (noneOf ")") ++ group 1 (")" ||| "," ++ finish)

def arrayPointer : Pattern := " (" ++ some1 (noneOf ")") ++ ")[" ++ some1 (noneOf "]") ++ "]"

def blankInCall : Pattern := word ++ blanks ++ "(" ++ blank ++ notAhead (blanks ++ "\\" ++ finish)

def blankInside : Pattern := "(" ++ some1 blank ++ notAhead (group 1 (blanks ++ "\\") ||| "(")

def blankBefore : Pattern := word ++ some1 blank ++ "("

/-- What looks like a call with a blank before its bracket and is none. -/
def notCalls : List Pattern :=
  [upTo 2 "_" ++ "asm" ++ upTo 2 "_" ++ some1 blank ++ upTo 2 "_" ++ "volatile" ++ upTo 2 "_"
     ++ some1 blank ++ "(",
   "#" ++ blanks ++ "define" ||| "typedef" ||| "using" ++ some1 blank ++ some1 word ++ blanks ++ "=",
   word ++ some1 blank ++ "(" ++ many (group 1 (some1 word ++ "::")) ++ "*" ++ some1 word ++ ")(",
   edge ++ "case" ++ some1 blank ++ "("]

def operatorName : Pattern := edge ++ "operator" ++ many "_" ++ edge

def blankAtEnd : Pattern :=
  noneOf ")" ++ some1 blank ++ ")" ++ blanks ++ one (.other (.union [.blank, .among "\x7b".toList]))

def closesAlone : Pattern := start ++ some1 blank ++ ")"

def findings (s : Source) (n : Nat) : List Finding :=
  let line := s.elided n
  let call := subject line
  let said (confidence : Int) (message : String) : List Finding :=
    [⟨n, .whitespaceParens, confidence, message⟩]
  if keyword.occursIn call || functionPointer.occursIn call || arrayPointer.occursIn call then []
  else
    (if blankInCall.occursIn call then said 4 "Extra space after ( in function call"
      else if blankInside.occursIn call then said 2 "Extra space after ("
      else [])
      ++ (if blankBefore.occursIn call && !notCalls.any (·.occursIn call) then
          said (if operatorName.occursIn line then 0 else 4) "Extra space before ( in function call"
        else [])
      ++ if blankAtEnd.occursIn call then
          if closesAlone.occursIn call then said 2 "Closing ) should be moved to the previous line"
          else said 2 "Extra space before )"
        else []

end StyleCheck.Rule.CallSpacing
