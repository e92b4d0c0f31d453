/-
  StyleCheck.Rule.LineShape — tabs, indentation, line ends, the length of lines, and one command a
  line.

  Lines that cannot be broken may be long: includes, header guards, and comments that are one word,
  a link or a revision mark.
-/

import StyleCheck.Nesting.State
import StyleCheck.Settings
import StyleCheck.Text.Width

namespace StyleCheck.Rule.LineShape

open Pattern

/-- The next line goes on with this one. -/
def continuesBelow : Pattern := anyOf "\",=><" ++ many " " ++ finish

def scopeOrLabel : Pattern := blanks ++ some1 word ++ blanks ++ ":" ++ blanks ++ opt "\\" ++ finish

def emptiedString : Pattern := start ++ blanks ++ "\"\""

/-- An odd indentation that is not due to a label, a raw string or a line that goes on. -/
def oddIndent (s : Source) (n : Nat) : Bool :=
  let line := s.plain n
  let spaces := (line.takeWhile (· == ' ')).length
  let above := if n == 0 then [] else s.plain (n - 1)
  (spaces == 1 || spaces == 3) && !continuesBelow.occursIn above
    && !scopeOrLabel.opens (s.elided n)
    && !(s.raw n != line && emptiedString.opens line)

def linkComment : Pattern :=
  start ++ blanks ++ "//" ++ anything ++ "http" ++ group 1 (opt "s") ++ "://" ++ many notBlank ++ finish

def oneWordComment : Pattern := start ++ blanks ++ "//" ++ blanks ++ many notBlank ++ finish

def revisionMark : Pattern :=
  start ++ "// $Id:" ++ anything ++ "#" ++ some1 (one (.range '0' '9')) ++ " $" ++ finish

/-- The line is part of the header guard of the given name. -/
def isGuardLine (guard line : Text) : Bool :=
  Text.startsWith line ("#ifndef ".toList ++ guard) || Text.startsWith line ("#define ".toList ++ guard)
    || Text.startsWith line ("#endif  // ".toList ++ guard)

/-- The line cannot be broken. In headers `guard` is the name of the header guard. -/
def mayBeLong (guard : Option Text) (line : Text) : Bool :=
  Text.startsWith line "#include".toList || (guard.map fun g => isGuardLine g line).getD false
    || linkComment.opens line || oneWordComment.opens line || revisionMark.opens line

/-- More than one command stands on the line. The head of a `for` loop, which may begin on the line
above, and a `case` that fits on one line are exempt. -/
def severalCommands (s : Source) (n : Nat) : Bool :=
  let line := s.elided n
  let above := s.textAbove n
  1 < line.count ';' && !Text.holds line "for".toList
    && (!Text.holds above "for".toList || above.contains ';')
    && !((Text.holds line "case ".toList || Text.holds line "default:".toList)
      && Text.holds line "break;".toList)

/-- Tabs, and both ends of the line. -/
def margins (s : Source) (n : Nat) : List Finding :=
  let line := s.plain n
  Finding.when (line.contains '\t') ⟨n, .whitespaceTab, 1, "Tab found; better to use spaces"⟩
    ++ Finding.when (oddIndent s n)
      ⟨n, .whitespaceIndent, 3,
        "Weird number of spaces at line-start.  Are you using a 2-space indent?"⟩
    ++ Finding.when ((line.getLast?.map Text.isBlank).getD false)
      ⟨n, .whitespaceEndOfLine, 4,
        "Line ends in whitespace.  Consider deleting these extra spaces."⟩

/-- The length of the line, and the commands on it. -/
def extent (settings : Settings) (guard : Option Text) (s : Source) (n : Nat) : List Finding :=
  let line := s.plain n
  Finding.when (!mayBeLong guard line && settings.lineLength < Text.width line)
      ⟨n, .whitespaceLineLength, 2,
        "Lines should be <= " ++ toString settings.lineLength ++ " characters long"⟩
    ++ Finding.when (severalCommands s n)
      ⟨n, .whitespaceNewline, 0, "More than one command on the same line"⟩

end StyleCheck.Rule.LineShape
