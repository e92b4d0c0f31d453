/-
  StyleCheck.Rule.TypeName — does an expression look like a type?

  Its last word is a built-in type, or the parameter of a template that an enclosing block belongs
  to. The parameters are looked for from the line of the keyword `template` nearest above the
  beginning of a block down to that beginning; from a namespace outwards nothing is looked for.
-/

import StyleCheck.Nesting.State

namespace StyleCheck.Rule.TypeName

open Pattern

def lastWord : Pattern := start ++ anything ++ group 1 (edge ++ some1 notBlank) ++ finish

def builtin : Pattern :=
  start
    ++ (group 1 ("char" ++ opt (group 2 (oneOf ["16_t", "32_t"])))
      ||| oneOf ["wchar_t", "bool", "short", "int", "long", "signed", "unsigned", "float", "double"]
      ||| group 3 (oneOf ["ptrdiff_t", "size_t", "max_align_t", "nullptr_t"])
      ||| group 4 (opt "u" ++ "int" ++ opt (group 5 ("_" ++ oneOf ["fast", "least"]))
        ++ group 6 (oneOf ["8", "16", "32", "64"]) ++ "_t")
      ||| group 7 (opt "u" ++ "int" ++ group 8 (oneOf ["max", "ptr"]) ++ "_t")
      ||| empty)
    ++ finish

def parameterNamed (token : Text) : Pattern :=
  edge ++ oneOf ["typename", "class", "struct"] ++ some1 blank ++ literal token ++ edge

/-- The nearest line at or above line `n`, but not above line `low`, with the keyword `template`. -/
def templateAbove? (s : Source) (low : Nat) : (n : Nat) → Option Nat
  | 0 =>
    if low == 0 && Text.holds (s.elided 0) "template".toList then some 0 else none
  | n + 1 =>
    if n + 1 < low then none
    else if Text.holds (s.elided (n + 1)) "template".toList then some (n + 1)
    else templateAbove? s low n

/-- Is the token a template parameter of one of the blocks, the innermost first? -/
def isParameter (s : Source) (token : Text) : List Block → Bool
  | [] => false
  | b :: outer =>
    if b.isNamespace then false
    else
      let low := (outer.head?.map Block.start).getD 0
      match templateAbove? s low b.start with
      | none => isParameter s token outer
      | some first =>
        (s.textFrom Line.elided first (b.start + 1 - first)).any (parameterNamed token).occursIn
          || isParameter s token outer

def isType (s : Source) (st : Nesting) (expression : Text) : Bool :=
  let token :=
    match lastWord.match? expression with
    | some m => m.group 1
    | none => expression
  builtin.opens token || isParameter s token st.stack

end StyleCheck.Rule.TypeName
