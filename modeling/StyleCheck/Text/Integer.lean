/-
  StyleCheck.Text.Integer — reading a whole number.

  A number is a sign, if any, and decimal digits of any script. A low line may stand between two
  digits, and blanks around the whole do not matter. The information separators are blanks only
  elsewhere: they are no part of a number, nor of what may surround it.
-/

import StyleCheck.Text.Blank
import StyleCheck.Text.Digit

namespace StyleCheck.Text

namespace Integer

/-- A blank that may stand before or after a number. -/
def isMargin (c : Char) : Bool := if c.toNat < 128 then isAsciiBlank c else isBlank c

/-- The number whose leading digits have the value `n`. The last character read was a digit. -/
def digits (n : Nat) : Text → Option Nat
  | [] => some n
  | '_' :: c :: cs =>
    match decimalValue? c with
    | some d => digits (10 * n + d) cs
    | none => none
  | c :: cs =>
    match decimalValue? c with
    | some d => digits (10 * n + d) cs
    | none => none

def natural? : Text → Option Nat
  | [] => none
  | c :: cs =>
    match decimalValue? c with
    | some d => digits d cs
    | none => none

end Integer

def readInt? (s : Text) : Option Int :=
  match trim Integer.isMargin s with
  | '-' :: cs => (Integer.natural? cs).map fun n => -(n : Int)
  | '+' :: cs => (Integer.natural? cs).map fun n => (n : Int)
  | cs => (Integer.natural? cs).map fun n => (n : Int)

end StyleCheck.Text
