/-
  StyleCheck.Rule.Nonstandard — constructs that are not standard, or better avoided, and
  constructors that take one argument.

  A constructor that can be called with one argument is an implicit conversion unless it is marked
  explicit. Its parameters are the pieces between commas; a piece with more opening than closing
  angle or round brackets is joined with the next one, and there is a failure if no next one is
  left. Copy constructors and those that take an initializer list are left alone.
-/

import StyleCheck.Nesting.State

namespace StyleCheck.Rule

/-! ## Constructs -/

open Pattern in
def longLongFormat : Pattern :=
  "printf" ++ blanks ++ "(" ++ anything ++ "\"" ++ anything ++ "%" ++ opt (anyOf "-+ ")
    ++ many decimal ++ "q"

open Pattern in
def numberedFormat : Pattern :=
  "printf" ++ blanks ++ "(" ++ anything ++ "\"" ++ anything ++ "%" ++ some1 decimal ++ "$"

open Pattern in
def undefinedEscape : Pattern :=
  group 1 (anyOf "\"'") ++ anything ++ "\\" ++ group 2 (anyOf "%[(\x7b")

open Pattern in
def lateStorageClass : Pattern :=
  edge
    ++ group 1
      (oneOf ["const", "volatile", "void", "char", "short", "int", "long", "float", "double",
          "signed", "unsigned", "schar"]
        ||| opt "u" ++ "int8" ||| opt "u" ++ "int16" ||| opt "u" ++ "int32" ||| opt "u" ++ "int64")
    ++ some1 blank ++ group 2 (oneOf ["register", "static", "extern", "typedef"]) ++ edge

open Pattern in
def textAfterEndif : Pattern :=
  blanks ++ "#" ++ blanks ++ "endif" ++ blanks
    ++ some1 (one (.other (.union [.blank, .among "/".toList])))

open Pattern in
def innerForwardClass : Pattern :=
  blanks ++ "class" ++ some1 blank ++ some1 (group 1 (some1 word ++ blanks ++ "::" ++ blanks))
    ++ some1 word ++ blanks ++ ";"

open Pattern in
def extremumOperator : Pattern :=
  group 1
      (some1 word
        ||| opt (anyOf "+-") ++ some1 decimal ++ opt (group 2 ("." ++ many decimal)))
    ++ blanks ++ group 3 (anyOf "<>") ++ "?" ++ opt "=" ++ blanks
    ++ group 4 (some1 word ||| opt (anyOf "+-") ++ some1 decimal)
    ++ opt (group 5 ("." ++ many decimal))

open Pattern in
def stringReferenceMember : Pattern :=
  start ++ blanks ++ "const" ++ blanks ++ "string" ++ blanks ++ "&" ++ blanks ++ some1 word
    ++ blanks ++ ";"

def nonstandardConstructs (s : Source) (n : Nat) : List Finding :=
  let code := s.code n
  let elided := s.elided n
  Finding.when (longLongFormat.occursIn code)
      ⟨n, .runtimePrintfFormat, 3, "%q in format strings is deprecated.  Use %ll instead."⟩
    ++ Finding.when (numberedFormat.occursIn code)
      ⟨n, .runtimePrintfFormat, 2,
        "%N$ formats are unconventional.  Try rewriting to avoid them."⟩
    ++ Finding.when (undefinedEscape.occursIn (Text.substitute "\\\\".toList [] code))
      ⟨n, .buildPrintfFormat, 3,
        "%, [, (, and \x7b are undefined character escapes.  Unescape them."⟩
    ++ Finding.when (lateStorageClass.occursIn elided)
      ⟨n, .buildStorageClass, 5,
        "Storage-class specifier (static, extern, typedef, etc) should be " ++
          "at the beginning of the declaration."⟩
    ++ Finding.when (textAfterEndif.opens elided)
      ⟨n, .buildEndifComment, 5,
        "Uncommented text after #endif is non-standard.  Use a comment."⟩
    ++ Finding.when (innerForwardClass.opens elided)
      ⟨n, .buildForwardDecl, 5,
        "Inner-style forward declarations are invalid.  Remove this line."⟩
    ++ Finding.when (extremumOperator.occursIn elided)
      ⟨n, .buildDeprecated, 3,
        ">? and <? (max and min) operators are non-standard and deprecated."⟩
    ++ Finding.when (stringReferenceMember.occursIn elided)
      ⟨n, .runtimeMemberStringReferences, 2,
        "const string& members are dangerous. It is much better to use " ++
          "alternatives, such as pointers or simple constants."⟩

/-! ## Constructors -/

open Pattern in
/-- A constructor of the class: group 1 is the mark `explicit`, group 2 the parameters. -/
def constructorOf (name : Text) : Pattern :=
  some1 blank ++ many (oneOf ["inline", "constexpr"] ++ some1 blank)
    ++ opt (group 1 ("explicit" ++ some1 blank))
    ++ many (oneOf ["inline", "constexpr"] ++ some1 blank) ++ literal name ++ blanks ++ "("
    ++ group 2 (many (noneOf "()" ||| "(" ++ many (noneOf "()") ++ ")")) ++ ")"

/-- A parameter in which a bracket is still open. -/
def isOpenParameter (s : Text) : Bool :=
  s.count '>' < s.count '<' || s.count ')' < s.count '('

/-- Joins pieces until no bracket is open; `piece` is the current parameter. -/
def joinParameters (piece : Text) : List Text → Except Failure (List Text)
  | [] => if isOpenParameter piece then .error .outOfRange else .ok [piece]
  | next :: rest =>
    if isOpenParameter piece then joinParameters (piece ++ ',' :: next) rest
    else (joinParameters next rest).map (piece :: ·)

/-- The parameters of a parameter list. -/
def parameters (s : Text) : Except Failure (List Text) :=
  if s.isEmpty then .ok []
  else
    match Text.pieces [','] s with
    | [] => .ok []
    | piece :: rest => joinParameters piece rest

open Pattern in
def initializerList : Pattern := edge ++ "std" ++ blanks ++ "::" ++ blanks ++ "initializer_list" ++ edge

open Pattern in
/-- The parameter of a copy constructor of the class. -/
def copiedParameter (name : Text) : Pattern :=
  opt (group 1 ("const" ++ some1 blank)) ++ literal name
    ++ opt (group 2 (blanks ++ "<" ++ many (noneOf ">") ++ ">")) ++ opt (group 3 (some1 blank ++ "const"))
    ++ blanks ++ opt ("<" ++ some1 word ++ ">" ++ blanks) ++ "&"

def explicitFindings (n : Nat) (name : Text) (isExplicit : Bool) (params : List Text) :
    List Finding :=
  let defaulted := params.filter fun p => p.contains '='
  let first := params.headD []
  let takesNone := params.isEmpty || (params.length == 1 && Text.strip first == "void".toList)
  let takesOne :=
    !takesNone && (params.length == 1 || params.length - 1 ≤ defaulted.length)
  let converts :=
    takesOne && !initializerList.occursIn first
      && !(copiedParameter name).opens (Text.strip first)
  if !isExplicit && converts then
    [⟨n, .runtimeExplicit, 5,
      if defaulted.isEmpty then "Single-parameter constructors should be marked explicit."
      else "Constructors callable with one argument should be marked explicit."⟩]
  else
    Finding.when (isExplicit && takesNone)
      ⟨n, .runtimeExplicit, 5, "Zero-parameter constructors should not be marked explicit."⟩

/-- The name of a class without the scopes before it. -/
def unqualified (name : Text) : Text := (Text.pieces "::".toList name).getLast?.getD []

def explicitConstructors (s : Source) (st : Nesting) (n : Nat) : Outcome :=
  match st.innermostClass? with
  | none => .nothing
  | some (b, head) =>
    if b.opened then
      let name := unqualified head.name
      match (constructorOf name).match? (s.elided n) with
      | none => .nothing
      | some m =>
        match parameters (m.group 2) with
        | .error e => ⟨[], some e⟩
        | .ok params => explicitFindings n name (m.group? 1).isSome params
    else .nothing

def nonstandard (s : Source) (st : Nesting) (n : Nat) : Outcome :=
  (nonstandardConstructs s n : Outcome) ++ explicitConstructors s st n

end StyleCheck.Rule
