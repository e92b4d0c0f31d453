/-
  StyleCheck.Pattern.CharSet — sets of characters, as data.
-/

import StyleCheck.Text.Blank
import StyleCheck.Text.Digit
import StyleCheck.Text.Lowercase
import StyleCheck.Text.WordChar

namespace StyleCheck

inductive CharSet where
  /-- Every character but the line feed. -/
  | any
  | word
  | blank
  | decimal
  | among (chars : List Char)
  | range (first last : Char)
  | other (s : CharSet)
  | either (s t : CharSet)
  /-- The characters that differ at most in case from one of `s`. -/
  | caseless (s : CharSet)
  deriving Repr, DecidableEq

namespace CharSet

def has : CharSet → Char → Bool
  | any, c => c != '\n'
  | word, c => Text.isWord c
  | blank, c => Text.isBlank c
  | decimal, c => Text.isDecimal c
  | among chars, c => chars.contains c
  | range first last, c => first ≤ c && c ≤ last
  | other s, c => !s.has c
  | either s t, c => s.has c || t.has c
  | caseless s, c => s.has c || (Text.caseVariants c).any s.has

/-- The union of a list of sets. -/
def union : List CharSet → CharSet
  | [] => among []
  | [s] => s
  | s :: rest => either s (union rest)

end CharSet

end StyleCheck
