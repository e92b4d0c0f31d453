/-
  StyleCheck.Rule.CommentStyle — how line comments are written.

  There are two blanks before a comment that follows code, and one after its mark. A note of what
  is left to do names somebody and is set off by one blank. The mark counts only if the number of
  quotes before it is even, escaped ones left out.
-/

import StyleCheck.Source.Lines

namespace StyleCheck.Rule.CommentStyle

open Pattern

/-- The text without backslashes and the characters they escape. -/
def withoutEscapes : Text → Text
  | '\\' :: c :: rest => if c == '\n' then '\\' :: c :: withoutEscapes rest else withoutEscapes rest
  | c :: rest => c :: withoutEscapes rest
  | [] => []

/-- An odd number of quotes in `before` tells that what follows it is part of a string. -/
def inQuotes (before : Text) : Bool := (withoutEscapes before).count '"' % 2 == 1

def afterOpening : Pattern := start ++ anything ++ "\x7b" ++ many " " ++ "//"

/-- Group 1 is what stands before the word, group 2 the name, group 3 the blank after it. -/
def toDo : Pattern :=
  start ++ "//" ++ group 1 blanks ++ "TODO" ++ opt (group 2 ("(" ++ (any ++ few any) ++ ")")) ++ opt ":"
    ++ opt (group 3 (blank ||| finish))

def wordAtMark : Pattern := "//" ++ many (noneOf " ") ++ word

def documentation : Pattern := group 1 (oneOf ["///", "//!"]) ++ group 2 (some1 blank ||| finish)

/-- The character at a column, if there is one, is no blank. -/
def codeAt (line : Text) (column : Nat) : Bool :=
  ((line.drop column).head?.map fun c => !Text.isAsciiBlank c).getD false

/-- The comment at column `column` stands too near to the code before it. A comment at the
beginning of a block may stand nearer if the next line begins at the same column. -/
def tooNear (line : Text) (column nextStart : Nat) : Bool :=
  !(afterOpening.opens line && nextStart == column)
    && ((1 ≤ column && codeAt line (column - 1)) || (2 ≤ column && codeAt line (column - 2)))

def toDoFindings (n : Nat) (comment : Text) : List Finding :=
  match toDo.match? comment with
  | none => []
  | some m =>
    let after := (m.group? 3).map (·.text)
    Finding.when (1 < (m.group 1).length) ⟨n, .whitespaceTodo, 2, "Too many spaces before TODO"⟩
      ++ Finding.when (m.group? 2).isNone
        ⟨n, .readabilityTodo, 2,
          "Missing username in TODO; it should look like \"// TODO(my_username): Stuff.\""⟩
      ++ Finding.when (after != some [' '] && after != some [])
        ⟨n, .whitespaceTodo, 2, "TODO(my_username) should be followed by a space"⟩

/-- What is to be said about the comment of a line; `nextStart` is the column at which the next
line begins. -/
def findings (line : Text) (n nextStart : Nat) : List Finding :=
  match Text.locate? "//".toList line with
  | none => []
  | some column =>
    if inQuotes (line.take column) then []
    else
      let comment := line.drop column
      Finding.when (tooNear line column nextStart)
          ⟨n, .whitespaceComments, 2, "At least two spaces is best between code and comments"⟩
        ++ toDoFindings n comment
        ++ Finding.when (wordAtMark.opens comment && !documentation.opens comment)
          ⟨n, .whitespaceComments, 4, "Should have a space between // and comment"⟩

end StyleCheck.Rule.CommentStyle
