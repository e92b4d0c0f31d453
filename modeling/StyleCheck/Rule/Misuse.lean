/-
  StyleCheck.Rule.Misuse — calls and statements that do not do what they seem to do.

  Functions that are not safe in threads, when their value is used; a verbosity that is no number;
  an increment of a pointer in place of a value; and explicit arguments where they are deduced.
-/

import StyleCheck.Source.Lines

namespace StyleCheck.Rule

open Pattern in
/-- An operator before a call, which tells that the value of the call is used. -/
def usedValue : Pattern := (anyOf "-+*/=%^&|(<" ++ blanks) ||| (">" ++ some1 blank)

/-- A function that is not safe in threads; it takes arguments or not. -/
structure ThreadUnsafe where
  name : String
  takesArguments : Bool := true

open Pattern in
def ThreadUnsafe.call (f : ThreadUnsafe) : Pattern :=
  usedValue ++ literal f.name.toList ++ "(" ++ (if f.takesArguments then some1 (noneOf ")") else empty)
    ++ ")"

def threadUnsafe : List ThreadUnsafe :=
  [⟨"asctime", true⟩, ⟨"ctime", true⟩, ⟨"getgrgid", true⟩, ⟨"getgrnam", true⟩, ⟨"getlogin", false⟩,
   ⟨"getpwnam", true⟩, ⟨"getpwuid", true⟩, ⟨"gmtime", true⟩, ⟨"localtime", true⟩, ⟨"rand", false⟩,
   ⟨"strtok", true⟩, ⟨"ttyname", true⟩]

def threadSafety (s : Source) (n : Nat) : List Finding :=
  threadUnsafe.flatMap fun f =>
    Finding.when (f.call.occursIn (s.elided n))
      ⟨n, .runtimeThreadsafeFn, 2,
        "Consider using " ++ f.name ++ "_r(...) instead of " ++ f.name ++
          "(...) for improved thread safety."⟩

open Pattern in
def namedVerbosity : Pattern :=
  edge ++ "VLOG(" ++ group 1 (oneOf ["INFO", "ERROR", "WARNING", "DFATAL", "FATAL"]) ++ ")"

def verbosityLevel (s : Source) (n : Nat) : List Finding :=
  Finding.when (namedVerbosity.occursIn (s.elided n))
    ⟨n, .runtimeVlog, 5,
      "VLOG() should be used with numeric verbosity level.  " ++
        "Use LOG() if you want symbolic severity levels."⟩

open Pattern in
def pointerIncrement : Pattern :=
  start ++ blanks ++ "*" ++ some1 word ++ group 1 (oneOf ["++", "--"]) ++ ";"

def invalidIncrement (s : Source) (n : Nat) : List Finding :=
  Finding.when (pointerIncrement.opens (s.elided n))
    ⟨n, .runtimeInvalidIncrement, 5,
      "Changing pointer instead of value (or unused value of operator*)."⟩

open Pattern in
def explicitPair : Pattern := edge ++ "make_pair" ++ blanks ++ "<"

def makePair (s : Source) (n : Nat) : List Finding :=
  Finding.when (explicitPair.occursIn (s.elided n))
    ⟨n, .buildExplicitMakePair, 4,
      "For C++11-compatibility, omit template arguments from make_pair" ++
        " OR use pair directly OR if appropriate, construct a pair directly"⟩

end StyleCheck.Rule
