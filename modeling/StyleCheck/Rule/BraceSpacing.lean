/-
  StyleCheck.Rule.BraceSpacing — blanks before curly brackets and semicolons.

  A curly bracket that opens a block stands after a blank. One that opens an initializer does not
  have to: it follows a type, or what stands after the bracket that closes it shows that the whole
  is an expression.
-/

import StyleCheck.Bracket.Match
import StyleCheck.Rule.TypeName

namespace StyleCheck.Rule.BraceSpacing

open Pattern

def tightCurly : Pattern := start ++ group 1 (anything ++ noneOf " (\x7b>") ++ "\x7b"

/-- What follows the closing bracket shows that an expression ends there. -/
def continuesExpression (text : Text) : Bool :=
  match text.dropWhile fun c => Text.isBlank c || c == '}' with
  | [] => false
  | c :: _ => "\x7b.;,)<>]:".toList.contains c

/-- What follows a place, on its line and on the two lines below, the last line of the file left
out. -/
def textAfter (s : Source) (r : Reach) : Text :=
  match r.place with
  | none => []
  | some p =>
    r.rest
      ++ (s.textFrom Line.elided (p.line + 1) (min (p.line + 3) (s.size - 1) - (p.line + 1))).flatten

def beforeCurly (s : Source) (st : Nesting) (n : Nat) : List Finding :=
  match tightCurly.match? (s.elided n) with
  | none => []
  | some m =>
    let lead := m.group 1
    let after := textAfter s (Bracket.findClose s n lead.length)
    Finding.when (!continuesExpression after && !TypeName.isType s st lead)
      ⟨n, .whitespaceBraces, 5, "Missing space before \x7b"⟩

def emptyStatement : Pattern := ":" ++ blanks ++ ";" ++ blanks ++ finish

def onlySemicolon : Pattern := start ++ blanks ++ ";" ++ blanks ++ finish

def blankBeforeSemicolon : Pattern := some1 blank ++ ";" ++ blanks ++ finish

def forWord : Pattern := edge ++ "for" ++ edge

def semicolon (line : Text) (n : Nat) : List Finding :=
  let said (message : String) : List Finding := [⟨n, .whitespaceSemicolon, 5, message⟩]
  if emptyStatement.occursIn line then
    said "Semicolon defining empty statement. Use \x7b\x7d instead."
  else if onlySemicolon.occursIn line then
    said ("Line contains only semicolon. If this should be an empty statement, " ++
      "use \x7b\x7d instead.")
  else if blankBeforeSemicolon.occursIn line && !forWord.occursIn line then
    said ("Extra space before last semicolon. If this should be an empty " ++
      "statement, use \x7b\x7d instead.")
  else []

def findings (s : Source) (st : Nesting) (n : Nat) : List Finding :=
  let line := s.elided n
  beforeCurly s st n
    ++ Finding.when (Text.holds line "\x7delse".toList)
      ⟨n, .whitespaceBraces, 5, "Missing space before else"⟩
    ++ semicolon line n

end StyleCheck.Rule.BraceSpacing
