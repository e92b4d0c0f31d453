/-
  StyleCheck.Rule.TrailingSemicolon — no semicolon after a block.

  A curly bracket opens a block if it follows a parameter list or condition, an `else`, a constant
  member function, or the end of another statement. It does not if the round brackets before it
  belong to a macro, a lambda, a type deduced from an expression or an initializer.

  The finding is about the line of the closing bracket, which may still be to come: the suppression
  comments there and on the line above are read first.
-/

import StyleCheck.Bracket.Match

namespace StyleCheck.Rule.TrailingSemicolon

open Pattern

def afterRound : Pattern := start ++ group 1 (anything ++ ")" ++ blanks) ++ "\x7b"

def macroBefore : Pattern :=
  edge ++ group 1 (one (.union [.range 'A' 'Z', .among "_".toList])
    ++ many (one (.union [.range 'A' 'Z', .range '0' '9', .among "_".toList]))) ++ blanks ++ finish

def squareBefore : Pattern := start ++ group 1 (anything ++ "]") ++ blanks ++ finish

def squareOperator : Pattern := edge ++ "operator" ++ blanks ++ "[" ++ blanks ++ "]"

def alignedBefore : Pattern :=
  edge ++ oneOf ["struct", "union"] ++ some1 blank ++ "alignas" ++ blanks ++ finish

def decltypeBefore : Pattern := edge ++ "decltype" ++ finish

def equalsBefore : Pattern := some1 blank ++ "=" ++ blanks ++ finish

def endsInSquare : Pattern := "]" ++ blanks ++ finish

/-- Macros that are known to be followed by a block. -/
def blockMacros : List Text :=
  ["TEST".toList, "TEST_F".toList, "MATCHER".toList, "MATCHER_P".toList, "TYPED_TEST".toList,
   "EXCLUSIVE_LOCKS_REQUIRED".toList, "SHARED_LOCKS_REQUIRED".toList, "LOCKS_EXCLUDED".toList,
   "INTERFACE_DEF".toList]

/-- What stands before the round brackets shows that no block follows them. -/
def excusedBy (lead : Text) : Bool :=
  (match macroBefore.search? lead with
    | some m => !blockMacros.contains (m.group 1)
    | none => false)
    || (match squareBefore.match? lead with
      | some m => !squareOperator.occursIn (m.group 1)
      | none => false)
    || alignedBefore.occursIn lead || decltypeBefore.occursIn lead || equalsBefore.occursIn lead

/-- The round brackets that end at column `column` of line `n` are followed by something other than
a block. -/
def excused (s : Source) (n column : Nat) : Bool :=
  let r := Bracket.findOpen s n column
  match r.place with
  | none => false
  | some p =>
    excusedBy (r.text.take p.column) || (1 < p.line && endsInSquare.occursIn (s.elided (p.line - 1)))

def afterElse : Pattern :=
  start ++ group 1 (anything ++ ("else" ||| ")" ++ blanks ++ "const") ++ blanks) ++ "\x7b"

def endsStatement : Pattern := anyOf ";\x7b\x7d" ++ blanks ++ finish

def firstCurly : Pattern := start ++ group 1 blanks ++ "\x7b"

/-- The column of the bracket on line `n` that opens a block. -/
def blockStart? (s : Source) (n : Nat) : Option Nat :=
  let line := s.elided n
  match afterRound.match? line with
  | some m =>
    let lead := m.group 1
    if excused s n ((Text.locateLast? ')' lead).getD 0) then none else some lead.length
  | none =>
    match afterElse.match? line with
    | some m => some (m.group 1).length
    | none =>
      if endsStatement.occursIn (s.textAbove n) then
        (firstCurly.match? line).map fun m => (m.group 1).length
      else none

def outcome (s : Source) (n : Nat) : Outcome :=
  match blockStart? s n with
  | none => .nothing
  | some column =>
    let r := Bracket.findClose s n column
    match r.place with
    | none => .nothing
    | some p =>
      if Text.opensWith ';' r.rest then
        ⟨[.suppress (s.raw (p.line - 1)) (p.line - 1), .suppress (s.raw p.line) p.line,
          .report ⟨p.line, .readabilityBraces, 4, "You don't need a ; after a \x7d"⟩], none⟩
      else .nothing

end StyleCheck.Rule.TrailingSemicolon
