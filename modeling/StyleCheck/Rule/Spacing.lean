/-
  StyleCheck.Rule.Spacing — blank lines, comments, and blanks before square brackets and around
  colons.

  A block neither begins nor ends with a blank line, and none follows an access label. Namespaces
  and linkage specifications are exempt. So is a blank line after a head that was broken over
  several lines: its last line is indented by four, or by six after the first line of an
  initializer list.
-/

import StyleCheck.Nesting.State
import StyleCheck.Rule.CommentStyle

namespace StyleCheck.Rule.Spacing

open Pattern

def indentedSix : Pattern := times 6 " " ++ word

def headEnd : Pattern :=
  times 4 " " ++ word ++ many (noneOf "(") ++ ")" ++ blanks ++ opt (group 1 ("const" ++ blanks))
    ++ group 2 ("\x7b" ++ blanks ++ finish ||| ":")

def initializerStart : Pattern := times 4 " " ++ ":"

/-- Of the lines above line `n`, the nearest that is not indented by six begins an initializer
list. -/
def initializersAbove (s : Source) : (n : Nat) → Bool
  | 0 => false
  | n + 1 =>
    if indentedSix.opens (s.elided n) then initializersAbove s n
    else (s.elided n).take 5 == "    :".toList

/-- The line above line `n`, given as `text`, ends a head that is broken over several lines. -/
def endsBrokenHead (s : Source) (n : Nat) (text : Text) : Bool :=
  if indentedSix.opens text then initializersAbove s (n - 1)
  else headEnd.opens text || initializerStart.opens text

/-- The last opening bracket of the line is not closed on it. -/
def leavesOpen (text : Text) : Bool :=
  match Text.locateLast? '{' text with
  | none => false
  | some i => !(text.drop i).contains '}'

def closesNext : Pattern := blanks ++ "\x7d"

def blankLine (s : Source) (n : Nat) : List Finding :=
  let before := s.elided (s.above n)
  let after := s.plain (n + 1)
  Finding.when (leavesOpen before && !endsBrokenHead s n before)
      ⟨n, .whitespaceBlankLine, 2,
        "Redundant blank line at the start of a code block should be deleted."⟩
    ++ Finding.when
      (n + 1 < s.size && closesNext.opens after && !Text.holds after "\x7d else ".toList)
      ⟨n, .whitespaceBlankLine, 3,
        "Redundant blank line at the end of a code block should be deleted."⟩
    ++ match sectionLabel.match? before with
      | none => []
      | some m =>
        [⟨n, .whitespaceBlankLine, 3,
          "Do not leave a blank line after \"" ++ String.ofList (m.group 1) ++ ":\""⟩]

def blankBeforeSquare : Pattern := word ++ some1 blank ++ "["

def allowedBeforeSquare : Pattern :=
  ("auto" ++ opt "&" ||| "delete" ||| "return") ++ some1 blank ++ "["

def nearColonRight : Pattern := "for" ++ many " " ++ "(" ++ anything ++ noneOf ":" ++ ":" ++ noneOf ": "

def nearColonLeft : Pattern := "for" ++ many " " ++ "(" ++ anything ++ noneOf ": " ++ ":" ++ noneOf ":"

def findings (s : Source) (st : Nesting) (n : Nat) : List Finding :=
  let line := s.plain n
  let elided := s.elided n
  let nextStart := ((s.plain (n + 1)).takeWhile Text.isBlank).length
  (if Text.allBlank line && !st.inNamespace && !st.inLinkage then blankLine s n else [])
    ++ CommentStyle.findings line n nextStart
    ++ Finding.when (blankBeforeSquare.occursIn elided && !allowedBeforeSquare.occursIn elided)
      ⟨n, .whitespaceBraces, 5, "Extra space before ["⟩
    ++ Finding.when (nearColonRight.occursIn elided || nearColonLeft.occursIn elided)
      ⟨n, .whitespaceForcolon, 2, "Missing space around colon in range-based for loop"⟩

end StyleCheck.Rule.Spacing
