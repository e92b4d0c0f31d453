/-
  StyleCheck.Rule.Braces — where curly brackets stand, and which statements need them.

  1. An opening bracket stands at the end of a line, not alone on the next one, and an `else` on
     the line of the bracket before it.
  2. An `else` has brackets on both sides or on none.
  3. A statement without brackets after an `if` or `else` ends at its first semicolon: nothing
     follows on that line, and the next line is not indented deeper.
-/

import StyleCheck.Bracket.Match
import StyleCheck.Settings
import StyleCheck.Text.Width

namespace StyleCheck.Rule.Braces

open Pattern

/-! ## Position -/

def onlyCurly : Pattern := blanks ++ "\x7b" ++ blanks ++ finish

/-- After such a line a bracket may stand alone. -/
def endsInDelimiter : Pattern := anyOf ",;:\x7d\x7b(" ++ blanks ++ finish

/-- A bracket alone on line `n` is at its place: it opens a block of its own, or an initializer
that does not fit on the line above. -/
def mayStandAlone (settings : Settings) (above : Text) : Bool :=
  endsInDelimiter.occursIn above || Directive.isDirective above
    || (settings.lineLength - 2 < Text.width above && Text.holds above "[]".toList)

def elseAtStart : Pattern := blanks ++ "else" ++ edge ++ blanks ++ ("if" ++ edge ||| "\x7b" ||| finish)

def onlyClosing : Pattern := blanks ++ "\x7d" ++ blanks ++ finish

def position (settings : Settings) (s : Source) (n : Nat) : List Finding :=
  let line := s.elided n
  let above := s.textAbove n
  Finding.when (onlyCurly.opens line && !mayStandAlone settings above)
      ⟨n, .whitespaceBraces, 4, "\x7b should almost always be at the end of the previous line"⟩
    ++ Finding.when (elseAtStart.opens line && onlyClosing.opens above)
      ⟨n, .whitespaceNewline, 4, "An else should appear on the same line as the preceding \x7d"⟩

/-! ## Both sides of an else -/

def elseIf : Pattern := "else if" ++ blanks ++ "("

def closingBeforeElseIf : Pattern := "\x7d" ++ blanks ++ "else if" ++ blanks ++ "("

def closingBeforeElse : Pattern := "\x7d" ++ blanks ++ "else" ++ many (noneOf "\x7b") ++ finish

def openingAfterElse : Pattern := many (noneOf "\x7d") ++ "else" ++ blanks ++ "\x7b"

/-- The bracket that opens the condition of the first `else if` of the line. -/
def conditionStart? (line : Text) : Option Nat :=
  (Text.locate? "else if".toList line).bind fun i => Text.locateFrom? "(".toList i line

def oneSided (s : Source) (n : Nat) : Bool :=
  let line := s.elided n
  if elseIf.occursIn line then
    match conditionStart? line with
    | none => false
    | some column =>
      closingBeforeElseIf.occursIn line != (Bracket.findClose s n column).rest.contains '{'
  else closingBeforeElse.occursIn line || openingAfterElse.opens line

/-! ## One line too many or too few -/

def statementAfterElse : Pattern :=
  edge ++ "else " ++ one (.other (.union [.blank, .among "\x7b".toList]))

def elseIfWords : Pattern := edge ++ "else if" ++ edge

def statementAfterDo : Pattern := blanks ++ "do " ++ one (.other (.union [.blank, .among "\x7b".toList]))

def sharedLine (line : Text) (n : Nat) : List Finding :=
  Finding.when (statementAfterElse.occursIn line && !elseIfWords.occursIn line)
      ⟨n, .whitespaceNewline, 4,
        "Else clause should never be on same line as else (use 2 lines)"⟩
    ++ Finding.when (statementAfterDo.opens line)
      ⟨n, .whitespaceNewline, 4, "do/while clauses should not be on a single line"⟩

/-! ## Statements without brackets -/

def ifOrElse : Pattern := edge ++ group 1 ("if" ++ blanks ++ "(" ||| "else" ++ edge)

def ifHead : Pattern := edge ++ "if" ++ blanks ++ "("

/-- Where the statement begins that belongs to the `if` or `else` of line `n`: after the condition,
if there is one and its end is found. -/
def bodyStart? (s : Source) (n : Nat) : Option Place :=
  let line := s.elided n
  match ifHead.search? line with
  | some m => (Bracket.findClose s n (m.stop - 1)).place
  | none => (ifOrElse.search? line).map fun m => ⟨n, m.stop⟩

/-- A curly bracket follows, on the line of the place or, if nothing else does, on the next one. -/
def hasCurly (s : Source) (p : Place) : Bool :=
  let rest := (s.elided p.line).drop p.column
  Text.opensWith '{' rest
    || (Text.allBlank rest && p.line + 1 < s.size && Text.opensWith '{' (s.elided (p.line + 1)))

/-- The first of `count` lines from `line` on that holds a semicolon; on the first line only what
follows the column counts. -/
def semicolonLine? (s : Source) (line column : Nat) : (count : Nat) → Option Nat
  | 0 => none
  | count + 1 =>
    if ((s.elided line).drop column).contains ';' then some line
    else semicolonLine? s (line + 1) 0 count

/-- Nothing follows the semicolon but blanks, closing brackets and the mark of a macro that goes
on below. -/
def endsStatement : Pattern :=
  ";" ++ many (one (.union [.blank, .among "\x7d".toList])) ++ group 1 (opt "\\") ++ finish

def lambdaLine : Pattern :=
  start ++ many (noneOf "\x7b\x7d;") ++ "[" ++ many (noneOf "[]") ++ "]" ++ many (noneOf "\x7b\x7d")
    ++ "\x7b" ++ many (noneOf "\x7b\x7d") ++ "\x7d" ++ blanks ++ many ")" ++ anyOf ";," ++ blanks ++ finish

def elseNext : Pattern := blanks ++ "else" ++ edge

/-- What is to be said on line `n` about the statement whose semicolon stands on line `last`. -/
def ending (s : Source) (n last : Nat) : List Finding :=
  let line := s.elided n
  let text := s.elided last
  let next := s.elided (last + 1)
  let said (message : String) : List Finding := [⟨n, .readabilityBraces, 4, message⟩]
  let several := "If/else bodies with multiple statements require braces"
  if !endsStatement.opens (text.dropWhile (· != ';')) then
    if lambdaLine.opens text then [] else said several
  else if s.size ≤ last + 1 then []
  else if ifHead.occursIn line && elseNext.opens next
      && Text.indentation next != Text.indentation line then
    said ("Else clause should be indented at the same level as if. " ++
      "Ambiguous nested if/else chains require braces.")
  else if Text.indentation line < Text.indentation next then said several
  else []

def bareStatement (s : Source) (n : Nat) : List Finding :=
  if Directive.isDirective (s.elided n) || !ifOrElse.occursIn (s.elided n) then []
  else
    match bodyStart? s n with
    | none => []
    | some p =>
      if hasCurly s p then []
      else
        match semicolonLine? s p.line p.column (s.size - p.line) with
        | none => []
        | some last => ending s n last

def findings (settings : Settings) (s : Source) (n : Nat) : List Finding :=
  position settings s n
    ++ Finding.when (oneSided s n)
      ⟨n, .readabilityBraces, 5,
        "If an else has a brace on one side, it should have it on both"⟩
    ++ sharedLine (s.elided n) n
    ++ bareStatement s n

end StyleCheck.Rule.Braces
