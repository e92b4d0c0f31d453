/-
  StyleCheck.Rule.EmptyBody — loops and conditionals that do nothing.

  A semicolon right after the condition is an empty body that is easily overlooked. An `if` whose
  brackets hold nothing, not even a comment, and which no `else` follows, has no effect.
-/

import StyleCheck.Bracket.Match

namespace StyleCheck.Rule.EmptyBody

open Pattern

def head : Pattern := blanks ++ group 1 (oneOf ["for", "while", "if"]) ++ blanks ++ "("

/-- The first character from a place on that is not blank, if it is an opening curly bracket. It is
looked for on `count` lines. -/
def curlyFrom? (s : Source) (line column : Nat) : (count : Nat) → Option Place
  | 0 => none
  | count + 1 =>
    let rest := (s.elided line).drop column
    if Text.opensWith '{' rest then some ⟨line, column + (rest.takeWhile (· != '{')).length⟩
    else if Text.allBlank rest then curlyFrom? s (line + 1) 0 count
    else none

/-- Between the bracket at `opening` and the place `closing` after the bracket that closes it there
is nothing but blanks: on the line of the first bracket no comment stands, and on the lines between
nothing at all. -/
def isEmptyBetween (s : Source) (opening closing : Place) : Bool :=
  let first := s.elided opening.line
  s.raw opening.line == Comment.drop (s.raw opening.line)
    && if opening.line < closing.line then
      Text.allBlank (first.drop (opening.column + 1))
        && (s.textFrom Line.raw (opening.line + 1) (closing.line - (opening.line + 1))).all
          Text.allBlank
        && Text.allBlank ((s.elided closing.line).take (closing.column - 1))
    else Text.allBlank (Text.slice (opening.column + 1) (closing.column - 1) first)

/-- The first word from a place on is `else`. It is looked for on `count` lines. -/
def elseFrom (s : Source) (line column : Nat) : (count : Nat) → Bool
  | 0 => false
  | count + 1 =>
    let rest := (s.elided line).drop column
    if Text.allBlank rest then elseFrom s (line + 1) 0 count
    else Text.startsWith (Text.stripLeft rest) "else".toList

/-- The `if` whose condition ends at `p` has brackets with nothing between them, and no `else`. -/
def isIdle (s : Source) (p : Place) : Bool :=
  match curlyFrom? s p.line p.column (s.size - p.line) with
  | none => false
  | some opening =>
    match (Bracket.findClose s opening.line opening.column).place with
    | none => false
    | some closing =>
      isEmptyBetween s opening closing
        && !elseFrom s closing.line closing.column (s.size - closing.line)

def findings (s : Source) (n : Nat) : List Finding :=
  let line := s.elided n
  match head.match? line with
  | none => []
  | some m =>
    let r := Bracket.findClose s n (m.stop - 1)
    match r.place with
    | none => []
    | some p =>
      let isIf := m.group 1 == "if".toList
      Finding.when (r.rest.head? == some ';')
          (if isIf then
            ⟨p.line, .whitespaceEmptyConditionalBody, 5,
              "Empty conditional bodies should use \x7b\x7d"⟩
          else
            ⟨p.line, .whitespaceEmptyLoopBody, 5,
              "Empty loop bodies should use \x7b\x7d or continue"⟩)
        ++ Finding.when (isIf && isIdle s p)
          ⟨p.line, .whitespaceEmptyIfBody, 4, "If statement had no body and no else clause"⟩

end StyleCheck.Rule.EmptyBody
