/-
  StyleCheck.Source.Directive — preprocessor directives.

  A directive is a line whose first visible character is a number sign; its name is the word that
  follows. `Directive.condition?` tells the directives that open, switch and close a conditional
  part, `Include.ofLine?` reads the header an include line asks for.
-/

import StyleCheck.Text.Blank
import StyleCheck.Text.WordChar

namespace StyleCheck

namespace Directive

/-- What follows the number sign of a directive and the blanks after it. -/
def body? (s : Text) : Option Text :=
  match s.dropWhile Text.isBlank with
  | '#' :: rest => some (rest.dropWhile Text.isBlank)
  | _ => none

def name? (s : Text) : Option Text := (body? s).map fun rest => rest.takeWhile Text.isWord

def isDirective (s : Text) : Bool := (body? s).isSome

inductive Condition where
  | opening
  | alternative
  | closing
  deriving DecidableEq, Repr

namespace Condition

def ofName? (name : Text) : Option Condition :=
  if name == "if".toList || name == "ifdef".toList || name == "ifndef".toList then some opening
  else if name == "else".toList || name == "elif".toList then some alternative
  else if name == "endif".toList then some closing
  else none

end Condition

def condition? (s : Text) : Option Condition := (name? s).bind Condition.ofName?

end Directive

/-- An include line: whether the header stands in angle brackets, and its path. -/
structure Include where
  system : Bool
  path : Text
  deriving DecidableEq, Repr

namespace Include

def ofLine? (s : Text) : Option Include :=
  match Directive.body? s with
  | none => none
  | some body =>
    if body.take 7 == "include".toList then
      match (body.drop 7).dropWhile Text.isBlank with
      | [] => none
      | opening :: rest =>
        if opening == '<' || opening == '"' then
          match rest.dropWhile fun c => c != '>' && c != '"' with
          | [] => none
          | _ :: after =>
            if (Text.restOfLine? after).isSome then
              some ⟨opening == '<', rest.takeWhile fun c => c != '>' && c != '"'⟩
            else none
        else none
    else none

end Include

end StyleCheck
