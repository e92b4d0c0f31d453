/-
  StyleCheck.Rule.Language — features of the language that are better avoided.
-/

import StyleCheck.Bracket.Inside
import StyleCheck.Source.Lines

namespace StyleCheck.Rule.Language

open Pattern

/-! ## Types, operators and statements -/

def shortPort : Pattern := edge ++ "short port" ++ edge

def unsignedShortPort : Pattern := edge ++ "unsigned short port" ++ edge

def sizedType : Pattern :=
  edge ++ group 1 ("short" ||| "long" ++ notAhead (some1 " " ++ "double") ||| "long long") ++ edge

def integerTypes (line : Text) (n : Nat) : List Finding :=
  if shortPort.occursIn line then
    Finding.when (!unsignedShortPort.occursIn line)
      ⟨n, .runtimeInt, 4, "Use \"unsigned short\" for ports, not \"short\""⟩
  else
    match sizedType.search? line with
    | none => []
    | some m =>
      [⟨n, .runtimeInt, 4,
        "Use int16/int64/etc, rather than the C type " ++ String.ofList (m.group 1)⟩]

def addressOperator : Pattern :=
  edge ++ "operator" ++ blanks ++ "&" ++ blanks ++ "(" ++ blanks ++ ")"

def ifAfterBlock : Pattern := "\x7d" ++ blanks ++ "if" ++ blanks ++ "("

def usingNamespace : Pattern := edge ++ "using namespace" ++ edge

/-! ## Format strings -/

/-- A word in letters of any case. -/
def anyCase (word : String) : Pattern :=
  word.toList.foldr (fun c p => one (.caseless (.among [c])) ++ p) empty

/-- Group 1 is the name of the function. -/
def printCall : Pattern :=
  edge ++ group 1 (opt (anyCase "string") ++ anyCase "printf") ++ blanks ++ "("

/-- A single operand, as a variable or a call. -/
def soleOperand : Pattern :=
  group 1 (some1 (one (.union [.word, .among ".->()".toList]))) ++ finish

def formatString (line : Text) (n : Nat) : List Finding :=
  match printCall.search? line, Bracket.textInside printCall line with
  | some call, .ok (some inside) =>
    match soleOperand.match? inside with
    | none => []
    | some m =>
      let operand := String.ofList (m.group 1)
      Finding.when (operand != "__VA_ARGS__")
        ⟨n, .runtimePrintf, 4,
          "Potential format string bug. Do " ++ String.ofList (call.group 1) ++ "(\"%s\", " ++
            operand ++ ") instead."⟩
  | _, _ => []

/-! ## Memory -/

def memsetCall : Pattern :=
  "memset" ++ blanks ++ "(" ++ group 1 (many (noneOf ",")) ++ "," ++ blanks ++ group 2 (many (noneOf ","))
    ++ "," ++ blanks ++ "0" ++ blanks ++ ")"

/-- What begins like a literal. -/
def literalStart : Pattern :=
  start ++ "''" ||| opt "-" ++ some1 (one (.range '0' '9'))
    ||| "0x" ++ one (.union [.range '0' '9', .range 'A' 'F', .range 'a' 'f']) ++ finish

def swappedArguments (line : Text) (n : Nat) : List Finding :=
  match memsetCall.search? line with
  | none => []
  | some m =>
    Finding.when (!literalStart.opens (m.group 2))
      ⟨n, .runtimeMemset, 4,
        "Did you mean \"memset(" ++ String.ofList (m.group 1) ++ ", 0, " ++ String.ofList (m.group 2) ++
          ")\"?"⟩

/-! ## Arrays -/

/-- The declaration of an array: group 2 is the word before the name, group 3 the length. -/
def arrayDeclaration : Pattern :=
  blanks ++ opt (group 1 (some1 any ++ "::")) ++ group 2 (some1 word) ++ " " ++ one (.range 'a' 'z')
    ++ many word ++ "[" ++ group 3 (some1 any) ++ "];"

def lengthDelimiter : Pattern := blank ||| oneOf ["+", "-", "*", "/", "<<", ">>]"]

def constantParts : List Pattern :=
  [some1 decimal,
   "0" ++ anyOf "xX" ++ some1 (one (.union [.range '0' '9', .range 'a' 'f', .range 'A' 'F'])),
   "k" ++ one (.union [.range 'A' 'Z', .range '0' '9']) ++ many word,
   opt (group 1 (some1 any ++ "::")) ++ "k" ++ one (.union [.range 'A' 'Z', .range '0' '9']) ++ many word,
   opt (group 1 (some1 any ++ "::")) ++ one (.range 'A' 'Z')
     ++ many (one (.union [.range 'A' 'Z', .range '0' '9', .among "_".toList]))]

def sizeofCall : Pattern := "sizeof(" ++ some1 any ++ ")"

def arraysizeCall : Pattern := "arraysize(" ++ some1 word ++ ")"

/-- All parts of a length are known to the compiler. What follows the word `sizeof` is part of its
operand. -/
def isConstantLength : List Text → Bool
  | [] => true
  | part :: rest =>
    let bare := Text.trimRight (· == ')') (Text.trimLeft (· == '(') part)
    if sizeofCall.occursIn part || arraysizeCall.occursIn part || bare.isEmpty
        || constantParts.any (·.opens bare) then isConstantLength rest
    else if Text.startsWith bare "sizeof".toList then isConstantLength (rest.drop 1)
    else false
termination_by parts => parts.length
decreasing_by
  · simp
  · simp only [List.length_drop, List.length_cons]
    omega

def variableLength (line : Text) (n : Nat) : List Finding :=
  match arrayDeclaration.match? line with
  | none => []
  | some m =>
    let before := m.group 2
    let length := m.group 3
    Finding.when
      (before != "return".toList && before != "delete".toList && !length.contains ']'
        && !isConstantLength (lengthDelimiter.splitBy length))
      ⟨n, .runtimeArrays, 1,
        "Do not use variable-length arrays.  Use an appropriately named " ++
          "('k' followed by CamelCase) compile-time constant for the size."⟩

/-! ## Namespaces -/

def unnamedNamespace : Pattern := edge ++ "namespace" ++ blanks ++ "\x7b"

def findings (isHeader : Bool) (s : Source) (n : Nat) : List Finding :=
  let line := s.elided n
  integerTypes line n
    ++ Finding.when (addressOperator.occursIn line)
      ⟨n, .runtimeOperator, 4, "Unary operator& is dangerous.  Do not use it."⟩
    ++ Finding.when (ifAfterBlock.occursIn line)
      ⟨n, .readabilityBraces, 4, "Did you mean \"else if\"? If not, start a new line for \"if\"."⟩
    ++ formatString line n
    ++ swappedArguments line n
    ++ Finding.when (usingNamespace.occursIn line)
      ⟨n, .buildNamespaces, 5,
        "Do not use namespace using-directives.  Use using-declarations instead."⟩
    ++ variableLength line n
    ++ Finding.when
      (isHeader && unnamedNamespace.occursIn line && line.getLast? != some '\\')
      ⟨n, .buildNamespaces, 4,
        "Do not use unnamed namespaces in header files.  See " ++
          "https://google-styleguide.googlecode.com/svn/trunk/cppguide.xml#Namespaces" ++
          " for more information."⟩

end StyleCheck.Rule.Language
