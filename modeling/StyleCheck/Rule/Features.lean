/-
  StyleCheck.Rule.Features — parts of newer libraries that are not approved.
-/

import StyleCheck.Source.Directive
import StyleCheck.Source.Lines

namespace StyleCheck.Rule.Features

open Pattern

def includedHeader : Pattern :=
  blanks ++ "#" ++ blanks ++ "include" ++ some1 blank ++ anyOf "<\"" ++ group 1 (some1 (noneOf "<\""))
    ++ anyOf "\">"

def header? (line : Text) : Option String :=
  (includedHeader.match? line).map fun m => String.ofList (m.group 1)

def headers11 : List String :=
  ["cfenv", "condition_variable", "fenv.h", "future", "mutex", "thread", "chrono", "ratio", "regex",
   "system_error"]

def names11 : List String := ["alignment_of", "aligned_union"]

def headers14 : List String := ["scoped_allocator", "shared_mutex"]

def libraryName (name : String) : Pattern := edge ++ "std::" ++ literal name.toList ++ edge

/-- In directives names count only if a macro is defined. -/
def namesCount (line : Text) : Bool :=
  match Directive.name? line with
  | none => true
  | some name => name == "define".toList

def cxx11 (s : Source) (n : Nat) : List Finding :=
  let line := s.elided n
  let header :=
    match header? line with
    | none => []
    | some h =>
      Finding.when ("tr1/".toList.isPrefixOf h.toList)
          ⟨n, .buildTr1, 5, "C++ TR1 headers such as <" ++ h ++ "> are unapproved."⟩
        ++ Finding.when (headers11.contains h)
          ⟨n, .buildCxx11, 5, "<" ++ h ++ "> is an unapproved C++11 header."⟩
  header
    ++ if namesCount line then
        names11.flatMap fun name =>
          Finding.when ((libraryName name).occursIn line)
            ⟨n, .buildCxx11, 5,
              "std::" ++ name ++ " is an unapproved C++11 class or function.  Send c-style " ++
                "an example of where it would make your code more readable, and " ++
                "they may let you use it."⟩
      else []

def cxx14 (s : Source) (n : Nat) : List Finding :=
  match header? (s.elided n) with
  | none => []
  | some h =>
    Finding.when (headers14.contains h)
      ⟨n, .buildCxx14, 5, "<" ++ h ++ "> is an unapproved C++14 header."⟩

end StyleCheck.Rule.Features
