/-
  StyleCheck.Bracket.Match — matching brackets over several lines.

  `findClose` starts at an opening bracket and finds the place after the bracket that closes it, `findOpen`
  starts at a closing bracket and finds the one it belongs to. Both read the elided view, so
  brackets in comments and literals do not count. They answer with the line on which the search
  ended, and the place if there is one.
-/

import StyleCheck.Bracket.Scan
import StyleCheck.Source.Lines

namespace StyleCheck

/-- A line and a column. -/
structure Place where
  line : Nat
  column : Nat
  deriving DecidableEq, Repr

/-- The end of a search: the text of the last line that was read, and the place found. -/
structure Reach where
  text : Text
  place : Option Place
  deriving DecidableEq, Repr

namespace Reach

/-- What follows the place found on its line; if none was found, the last character of the line. -/
def rest (r : Reach) : Text :=
  match r.place with
  | some p => r.text.drop p.column
  | none => r.text.drop (r.text.length - 1)

end Reach

namespace Bracket

/-- Goes on at the end of line `line`, whose text is `text`, with at most `lines` more lines. -/
def closeBelow (s : Source) : (lines : Nat) → (line : Nat) → Text → Stack → Reach
  | 0, _, text, _ => ⟨text, none⟩
  | lines + 1, line, text, stack =>
    if stack.isEmpty then ⟨text, none⟩
    else
      let next := s.elided (line + 1)
      match scan stack [] 0 next with
      | .found column => ⟨next, some ⟨line + 1, column⟩⟩
      | .broken => ⟨next, none⟩
      | .unfinished stack => closeBelow s lines (line + 1) next stack

/-- A character at which an expression can begin: a bracket, but no shift or comparison. -/
def canOpen (s : Text) : Bool :=
  match s with
  | '<' :: '<' :: _ => false
  | '<' :: '=' :: _ => false
  | c :: _ => c == '(' || c == '{' || c == '[' || c == '<'
  | [] => false

/-- The place after the bracket that closes the one at column `column` of line `line`. -/
def findClose (s : Source) (line column : Nat) : Reach :=
  let text := s.elided line
  if canOpen (text.drop column) then
    match scanFrom [] text column with
    | .found stop => ⟨text, some ⟨line, stop⟩⟩
    | .broken => ⟨text, none⟩
    | .unfinished stack => closeBelow s (s.size - 1 - line) line text stack
  else ⟨text, none⟩

/-- Goes on at the beginning of line `line`, whose text is `text`. -/
def openAbove (s : Source) : (line : Nat) → Text → Stack → Reach
  | 0, text, _ => ⟨text, none⟩
  | line + 1, text, stack =>
    if stack.isEmpty then ⟨text, none⟩
    else
      let previous := s.elided line
      match scanBack stack [] previous.reverse with
      | .found column => ⟨previous, some ⟨line, column⟩⟩
      | .broken => ⟨previous, none⟩
      | .unfinished stack => openAbove s line previous stack

def canClose (c : Char) : Bool := c == ')' || c == '}' || c == ']' || c == '>'

/-- The place of the bracket that the one at column `column` of line `line` closes. -/
def findOpen (s : Source) (line column : Nat) : Reach :=
  let text := s.elided line
  if ((text.drop column).head?.map canClose).getD false then
    match scanBackFrom [] text column with
    | .found start => ⟨text, some ⟨line, start⟩⟩
    | .broken => ⟨text, none⟩
    | .unfinished stack => openAbove s line text stack
  else ⟨text, none⟩

/-- The closing bracket at the place ends a type deduced from an expression. -/
def isDecltype (s : Source) (line column : Nat) : Bool :=
  let r := findOpen s line column
  match r.place with
  | none => false
  | some p => endsInWord "decltype".toList (r.text.take p.column).reverse

end Bracket

end StyleCheck
