/-
  StyleCheck.Bracket.Inside — the text between brackets, found by what stands before them.

  The pattern must match up to and including an opening round, square or curly bracket. From there
  on these three kinds of brackets are counted and nothing else.
-/

import StyleCheck.Bracket.Scan
import StyleCheck.Finding
import StyleCheck.Pattern.Search

namespace StyleCheck.Bracket

/-- The number of characters up to the bracket that closes the innermost one of `stack`, if all
brackets before it are paired. -/
def insideLength? : (stack : Stack) → Text → Option Nat
  | [], _ => some 0
  | _ :: _, [] => none
  | top :: outer, c :: rest =>
    if c == top.closing then
      if outer.isEmpty then some 0 else (insideLength? outer rest).map (· + 1)
    else if (closes? c).isSome then none
    else
      match opens? c with
      | some b => (insideLength? (b :: top :: outer) rest).map (· + 1)
      | none => (insideLength? (top :: outer) rest).map (· + 1)

/-- The text inside the brackets that the first match of `p` opens. -/
def textInside (p : Pattern) (text : Text) : Except Failure (Option Text) :=
  match p.search? text with
  | none => .ok none
  | some m =>
    match (text.take m.stop).getLast?.bind opens? with
    | none => .error .noOpeningBracket
    | some b => .ok ((insideLength? [b] m.rest).map fun n => m.rest.take n)

end StyleCheck.Bracket
