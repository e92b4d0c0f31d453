/-
  StyleCheck.Rule.GlobalString — global strings, and members that are initialized with themselves.

  A declaration may go on below, so a line without a semicolon or an opening bracket is read
  together with the next one. Pointers, functions and operators are not objects.
-/

import StyleCheck.Source.Lines

namespace StyleCheck.Rule.GlobalString

open Pattern

/-- A declaration of a string: group 1 is what stands before the type, group 2 what stands after
it, group 3 the name and group 4 the rest. -/
def declaration : Pattern :=
  group 1 ((empty ||| "static" ++ some1 " ") ++ (empty ||| "const" ++ some1 " "))
    ++ opt (many ":" ++ "std::") ++ "string" ++ opt (group 2 (some1 " " ++ "const")) ++ some1 " "
    ++ group 3
      (some1 (one (.union [.range 'a' 'z', .range 'A' 'Z', .range '0' '9', .among "_:".toList])))
    ++ edge ++ group 4 anything

def stringPointer : Pattern :=
  edge ++ "string" ++ edge ++ opt (group 1 (some1 blank ++ "const")) ++ blanks ++ anyOf "*&" ++ blanks
    ++ opt (group 2 ("const" ++ some1 blank)) ++ word

def operatorWord : Pattern := edge ++ "operator" ++ notWord

def functionRest : Pattern :=
  blanks ++ opt (group 1 ("<" ++ anything ++ ">"))
    ++ many (group 2 ("::" ++ some1
      (one (.union [.range 'a' 'z', .range 'A' 'Z', .range '0' '9', .among "_".toList]))))
    ++ blanks ++ "(" ++ group 3 (noneOf "\"" ||| finish)

def constWord : Pattern := edge ++ "const" ++ edge

def identifier : Pattern :=
  many (one (.union [.range 'A' 'Z', .range 'a' 'z', .range '0' '9', .among "_".toList])) ++ "_"

def ownValue : Pattern := edge ++ group 1 identifier ++ "(" ++ again 1 ++ ")"

def ownCheckedValue : Pattern := edge ++ group 1 identifier ++ "(CHECK_NOTNULL(" ++ again 1 ++ "))"

/-- The line, with the next one if the declaration goes on there. -/
def statement (s : Source) (n : Nat) : Text :=
  let line := s.elided n
  if n + 1 < s.size && !line.any (fun c => c == ';' || c == '(' || c == '{') then
    line ++ Text.strip (s.elided (n + 1))
  else line

def strings (line : Text) (n : Nat) : List Finding :=
  match declaration.match? line with
  | none => []
  | some m =>
    if stringPointer.occursIn line || operatorWord.occursIn line || functionRest.opens (m.group 4)
    then []
    else
      [⟨n, .runtimeString, 4,
        if constWord.occursIn line then
          "For a static/global string constant, use a C style string instead: \"" ++
            String.ofList (m.group 1) ++ "char" ++ String.ofList (m.group 2) ++ " " ++
            String.ofList (m.group 3) ++ "[]\"."
        else "Static/global string variables are not permitted."⟩]

def findings (s : Source) (n : Nat) : List Finding :=
  let line := statement s n
  strings line n
    ++ Finding.when (ownValue.occursIn line || ownCheckedValue.occursIn line)
      ⟨n, .runtimeInit, 4, "You seem to be initializing a member variable with itself."⟩

end StyleCheck.Rule.GlobalString
